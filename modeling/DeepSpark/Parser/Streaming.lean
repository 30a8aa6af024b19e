import DeepSpark.Parser.Delegating

/-!
Streaming against the batch parser.

Owns the outputs in which reasoning ends once, what the calls of `parse_delta` deliver of their
reasoning and hand to the tool parser, and the groupings of the tokens for which that is what
`extract_reasoning` returns: the start token comes alone, or with the end token, and no reasoning
is withheld when the end token comes.
-/

namespace DeepSpark

open Lib BaseThinkingReasoningParser List

namespace DelegatingParser

variable {σ τ : Type} {startTokenId endTokenId : TokenId} {tools : ToolParser σ τ} {tokenText : TokenId → Text}
  {toolState : σ} {state : StreamState} {promptTokenIds : Option (List TokenId)}

def textOf (tokenText : TokenId → Text) (tokens : List TokenId) : Text := tokens.flatMap tokenText

structure Spells (parser : BaseThinkingReasoningParser) (tokenText : TokenId → Text) : Prop where
  startToken : tokenText parser.startTokenId = parser.startToken
  endToken : tokenText parser.endTokenId = parser.endToken

/-- An output whose reasoning ends once, with nothing like a marker in it. -/
structure ReasonsOnce (parser : BaseThinkingReasoningParser) (tokenText : TokenId → Text)
    (tokens lead reasoning content : List TokenId) : Prop where
  tokens_eq : tokens = lead ++ reasoning ++ parser.endTokenId :: content
  startFirst : lead = [] ∨ lead = [parser.startTokenId]
  startOnce : ¬ parser.startToken <:+: textOf tokenText (reasoning ++ parser.endTokenId :: content)
  endOnce : ¬ parser.endToken <:+: textOf tokenText reasoning
  noToolCall : ¬ toolCallStartToken <:+: textOf tokenText reasoning

/-! ## What a message delivers -/

namespace Parsed

def reasoning (parsed : Parsed τ) : Text := (parsed.message.bind DeltaMessage.reasoning).getD []

def handedText (parsed : Parsed τ) : Text := parsed.handed.getD []

end Parsed

/-- The calls deliver the reasoning and hand over the content that the batch parser finds, and no
text reaches the content without the tool parser. -/
structure SplitsAsBatch (parser : BaseThinkingReasoningParser) (tokenText : TokenId → Text) (tokens : List TokenId)
    (parsed : List (Parsed τ)) : Prop where
  reasoning : (parsed.map Parsed.reasoning).flatten = (parser.extractReasoning (textOf tokenText tokens)).1
  content : (parsed.map Parsed.handedText).flatten = (parser.extractReasoning (textOf tokenText tokens)).2.getD []
  noOther : ∀ call ∈ parsed, call.handed = none → call.message.bind DeltaMessage.content = none

def beforeEnd (parser : BaseThinkingReasoningParser) (groups : List (List TokenId)) : List (List TokenId) :=
  groups.takeWhile fun group => parser.endTokenId ∉ group

/-- The prompt leaves the reasoning open, the start token does not come together with reasoning
alone, and the reasoning before the group with the end token does not end as a tool call begins. -/
structure MarkersApart (parser : BaseThinkingReasoningParser) (tokenText : TokenId → Text)
    (promptTokenIds : Option (List TokenId)) (groups : List (List TokenId)) : Prop where
  promptOpen : ∀ prompt ∈ promptTokenIds, parser.isReasoningEnd prompt = false
  startAlone : ∀ group ∈ beforeEnd parser groups, parser.startTokenId ∈ group → group = [parser.startTokenId]
  nothingWithheld : tagOverlap (textOf tokenText (beforeEnd parser groups).flatten) toolCallStartToken = 0

theorem toolCallStartToken_ne_nil : toolCallStartToken ≠ [] := cons_ne_nil _ _

structure DistinctMarkers (parser : BaseThinkingReasoningParser) : Prop where
  startTool : Clashes parser.startToken toolCallStartToken
  startEnd : Clashes parser.startToken parser.endToken
  endEnd : Clashes parser.endToken.tail parser.endToken
  startSome : parser.startToken ≠ []
  endSome : parser.endToken ≠ []

theorem r1_distinctMarkers : DistinctMarkers (DeepSeekR1ReasoningParser startTokenId endTokenId) where
  startTool := by
    show Clashes ['<', 't', 'h', 'i', 'n', 'k', '>'] toolCallStartToken
    decide
  startEnd := by
    show Clashes ['<', 't', 'h', 'i', 'n', 'k', '>'] ['<', '/', 't', 'h', 'i', 'n', 'k', '>']
    decide
  endEnd := by
    show Clashes ['/', 't', 'h', 'i', 'n', 'k', '>'] ['<', '/', 't', 'h', 'i', 'n', 'k', '>']
    decide
  startSome := cons_ne_nil _ _
  endSome := cons_ne_nil _ _

theorem textOf_append (tokens more : List TokenId) :
    textOf tokenText (tokens ++ more) = textOf tokenText tokens ++ textOf tokenText more :=
  flatMap_append

theorem textOf_cons (token : TokenId) (tokens : List TokenId) :
    textOf tokenText (token :: tokens) = tokenText token ++ textOf tokenText tokens :=
  flatMap_cons

theorem getD_textOrNone (text : Text) : (textOrNone text).getD [] = text := by
  cases text <;> rfl

section

variable {parser : BaseThinkingReasoningParser} (distinct : DistinctMarkers parser)

include distinct

theorem start_ne_end (spells : Spells parser tokenText) : parser.startTokenId ≠ parser.endTokenId := by
  intro same
  have spelled : parser.startToken = parser.endToken :=
    spells.startToken.symm.trans ((congrArg tokenText same).trans spells.endToken)
  have differ := @Clashes.not_prefix _ _ [] _ distinct.startEnd 0 (length_pos_iff.mpr distinct.startSome)
  rw [drop_zero, append_nil, spelled] at differ
  exact differ prefix_rfl

/-! ## One text -/

theorem pyFind_endToken {before : Text} (absent : ¬ parser.endToken <:+: before) (after : Text) :
    pyFind (before ++ (parser.endToken ++ after)) parser.endToken = before.length := by
  rw [pyFind, find_append distinct.endEnd absent]

omit distinct in
theorem find_start (text : Text) : find (parser.startToken ++ text) parser.startToken 0 = some ([] : Text).length :=
  find_eq_some.mpr ⟨Nat.zero_le _, prefix_append _ _, fun _ isEarlier => absurd isEarlier (Nat.not_lt_zero _)⟩

omit distinct in
theorem pyFind_startToken (text : Text) : pyFind (parser.startToken ++ text) parser.startToken = (0 : Nat) := by
  rw [pyFind, find_start]
  rfl

omit distinct in
theorem sliceBound_natCast (text : Text) (bound : Nat) : sliceBound text bound = bound := by
  rw [sliceBound, if_neg (by omega), Int.toNat_natCast]

theorem splitAtEnd_eq {before : Text} (absent : ¬ parser.endToken <:+: before) (after : Text) :
    (parser.splitAtEnd (before ++ (parser.endToken ++ after)) : DeltaMessage τ) =
      { reasoning := some before, content := textOrNone after } := by
  rw [splitAtEnd, pyFind_endToken distinct absent, ← Nat.cast_add, pySliceTo, pySliceFrom,
    sliceBound_natCast, sliceBound_natCast, take_left, ← append_assoc, ← length_append, drop_left]

omit distinct in
theorem pyPartition_eq {text separator before after : Text} (found : find text separator 0 = some before.length)
    (isText : text = before ++ (separator ++ after)) : pyPartition text separator = (before, separator, after) := by
  subst isText
  rw [pyPartition, found]
  dsimp only
  rw [take_left, ← append_assoc, ← length_append, drop_left]

theorem extractReasoning_eq {leadText before after : Text} (startFirst : leadText = [] ∨ leadText = parser.startToken)
    (startOnce : ¬ parser.startToken <:+: before ++ (parser.endToken ++ after))
    (endOnce : ¬ parser.endToken <:+: before) :
    parser.extractReasoning (leadText ++ (before ++ (parser.endToken ++ after))) = (before, textOrNone after) := by
  have afterStart : (if (pyPartition (leadText ++ (before ++ (parser.endToken ++ after))) parser.startToken).2.1.isEmpty
      then (pyPartition (leadText ++ (before ++ (parser.endToken ++ after))) parser.startToken).1
      else (pyPartition (leadText ++ (before ++ (parser.endToken ++ after))) parser.startToken).2.2) =
        before ++ (parser.endToken ++ after) := by
    rcases startFirst with rfl | rfl
    · rw [nil_append, pyPartition, find_eq_none.mpr startOnce]
      rfl
    · rw [pyPartition_eq (find_start _) rfl, if_neg (by simpa using distinct.startSome)]
  have isIn : parser.endToken <:+: before ++ (parser.endToken ++ after) := infix_append' ..
  rw [extractReasoning]
  rw [afterStart, if_neg (not_not.mpr isIn), pyPartition_eq (find_append distinct.endEnd endOnce) rfl]

/-! ## One group -/

def shownText (parser : BaseThinkingReasoningParser) (tokenText : TokenId → Text) (group : List TokenId) : Text :=
  if group = [parser.startTokenId] then [] else textOf tokenText group

omit distinct in
theorem r1_withoutEnd {previous group : List TokenId} (notBefore : parser.endTokenId ∉ previous)
    (notHere : parser.endTokenId ∉ group) :
    (parser.r1ExtractReasoningStreaming previous (textOf tokenText group) group : Option (DeltaMessage τ)) =
      if group = [parser.startTokenId] then none else some { reasoning := some (textOf tokenText group) } := by
  have notEnd : group ≠ [parser.endTokenId] := fun same => notHere (by rw [same]; exact mem_singleton_self _)
  rw [r1ExtractReasoningStreaming, extractReasoningStreaming]
  by_cases isStart : group = [parser.startTokenId]
  · simp [isStart]
  · simp only [isStart, notEnd, notHere, notBefore, or_self, if_false]
    by_cases startBefore : parser.startTokenId ∈ previous
    · simp [startBefore]
    · by_cases startHere : parser.startTokenId ∈ group <;> simp [startBefore, startHere]

theorem r1_withEnd (spells : Spells parser tokenText) {previous lead before after : List TokenId}
    (startFirst : lead = [] ∨ lead = [parser.startTokenId] ∧ parser.startTokenId ∉ previous)
    (startNotHere : parser.startTokenId ∉ before ++ parser.endTokenId :: after)
    (endOnce : ¬ parser.endToken <:+: textOf tokenText before) {message : Option (DeltaMessage τ)}
    (isMessage : message = parser.r1ExtractReasoningStreaming previous
      (textOf tokenText (lead ++ before ++ parser.endTokenId :: after)) (lead ++ before ++ parser.endTokenId :: after)) :
    (message.bind DeltaMessage.reasoning).getD [] = textOf tokenText before ∧
      (message.bind DeltaMessage.content).getD [] = textOf tokenText after := by
  have differ := start_ne_end distinct spells
  have isText : textOf tokenText (lead ++ before ++ parser.endTokenId :: after) =
      textOf tokenText lead ++ (textOf tokenText before ++ (parser.endToken ++ textOf tokenText after)) := by
    rw [textOf_append, textOf_append, textOf_cons, spells.endToken, append_assoc]
  have endHere : parser.endTokenId ∈ lead ++ before ++ parser.endTokenId :: after :=
    mem_append_right _ mem_cons_self
  have notStart : lead ++ before ++ parser.endTokenId :: after ≠ [parser.startTokenId] := fun same => by
    rw [same, mem_singleton] at endHere
    exact differ endHere.symm
  by_cases isEnd : lead ++ before ++ parser.endTokenId :: after = [parser.endTokenId]
  · -- the end token alone
    have isNone : message = none := by
      rw [isMessage, isEnd, r1ExtractReasoningStreaming,
        extractReasoningStreaming]
      simp
    obtain ⟨-, rfl, rfl⟩ : lead = [] ∧ before = [] ∧ after = [] := by
      have count := congrArg List.length isEnd
      simp only [length_append, length_cons, length_nil] at count
      exact ⟨length_eq_zero_iff.mp (by omega), length_eq_zero_iff.mp (by omega),
        length_eq_zero_iff.mp (by omega)⟩
    rw [isNone]
    exact ⟨rfl, rfl⟩
  · have found : message =
        some { reasoning := some (textOf tokenText before), content := textOrNone (textOf tokenText after) } := by
      rw [isMessage, r1ExtractReasoningStreaming,
        extractReasoningStreaming]
      rcases startFirst with rfl | ⟨rfl, startNotBefore⟩
      · have startNotIn : parser.startTokenId ∉ ([] : List TokenId) ++ before ++ parser.endTokenId :: after := startNotHere
        rw [isText]
        by_cases startBefore : parser.startTokenId ∈ previous
        · simp only [notStart, isEnd, endHere, startBefore, or_self, if_true, if_false, not_true, false_and, and_false]
          exact congrArg some (splitAtEnd_eq distinct endOnce _)
        · simp only [notStart, isEnd, endHere, startBefore, startNotIn, or_self, if_true, if_false, not_false_iff,
            Option.isSome_some, and_self]
          exact congrArg some (splitAtEnd_eq distinct endOnce _)
      · have startHere : parser.startTokenId ∈ [parser.startTokenId] ++ before ++ parser.endTokenId :: after := by simp
        have startText : textOf tokenText [parser.startTokenId] = parser.startToken := by
          rw [textOf_cons, spells.startToken]
          exact append_nil _
        have endAbsent : ¬ parser.endToken <:+: parser.startToken ++ textOf tokenText before :=
          distinct.startEnd.infix_append.not.mpr endOnce
        simp only [notStart, isEnd, endHere, startNotBefore, startHere, or_self, if_true, if_false, not_true, and_false]
        rw [isText, startText, pyFind_startToken, ← append_assoc, pyFind_endToken distinct endAbsent,
          ← Nat.cast_add, ← Nat.cast_add, pySlice, pySliceTo, pySliceFrom, sliceBound_natCast, sliceBound_natCast,
          sliceBound_natCast, take_left, Nat.zero_add, drop_left,
          ← append_assoc _ parser.endToken, ← length_append, drop_left]
    rw [found]
    exact ⟨rfl, getD_textOrNone _⟩

omit distinct in
/-- What is not delivered at once is withheld, as long as no tool call starts. -/
theorem intercept_eq {pendingReasoning shown : Text} {message : Option (DeltaMessage τ)}
    (isShown : (message.bind DeltaMessage.reasoning).getD [] = shown)
    (noContent : message.bind DeltaMessage.content = none)
    (noToolCall : ¬ toolCallStartToken <:+: pendingReasoning ++ shown) :
    ∃ after : Option (DeltaMessage τ), ∃ pending : Text,
      interceptDanglingToolMarker pendingReasoning message false = (after, [], false, pending) ∧
      (after.bind DeltaMessage.reasoning).getD [] ++ pending = pendingReasoning ++ shown ∧
      pending.length = tagOverlap (pendingReasoning ++ shown) toolCallStartToken ∧
      after.bind DeltaMessage.content = none := by
  rw [interceptDanglingToolMarker, isShown]
  by_cases isQuiet : shown.isEmpty ∧ pendingReasoning.isEmpty
  · rw [if_pos isQuiet]
    obtain ⟨noText, noPending⟩ := isQuiet
    rw [List.isEmpty_iff] at noText noPending
    subst noPending noText
    have nothing : tagOverlap ([] ++ []) toolCallStartToken = 0 := Nat.le_zero.mp (tagOverlap_le [] _)
    exact ⟨message, [], rfl, by rw [isShown], nothing.symm, noContent⟩
  · rw [if_neg isQuiet]
    dsimp only
    rw [find_eq_none.mpr noToolCall]
    generalize pendingReasoning ++ shown = buf
    have inside := tagOverlap_le buf toolCallStartToken
    dsimp only
    rw [if_neg Bool.false_ne_true]
    split
    next isEmpty =>
      rw [List.isEmpty_iff] at isEmpty
      refine ⟨_, _, rfl, ?_, by rw [length_drop]; omega, ?_⟩
      · have isWhole := take_append_drop (buf.length - tagOverlap buf toolCallStartToken) buf
        rw [isEmpty] at isWhole
        cases message with
        | none => exact isWhole
        | some => exact isWhole
      · cases message with
        | none => rfl
        | some => exact noContent
    next =>
      refine ⟨_, _, rfl, take_append_drop _ _, by rw [length_drop]; omega, ?_⟩
      cases message with
      | none => rfl
      | some => exact noContent

/-! ## One call -/

/-- The locals with which `parse_delta` starts. -/
def firstDelta (state : StreamState) (deltaText : Text) (group : List TokenId) : Delta τ :=
  { message := none
    currentText := state.previousText ++ deltaText
    currentTokenIds := state.previousTokenIds ++ group
    deltaText
    deltaTokenIds := group }

omit distinct in
/-- `parse_delta` from its two phases: the end of the generation touches only tool calls. -/
theorem parseDelta_eq {deltaText : Text} {group : List TokenId} {finished : Bool} {afterReasoning last : StreamState}
    {delta parsedDelta : Delta τ} {nextTools : σ} {handed : Option Text}
    (reasons : reasoningPhase parser (checkPrompt parser state promptTokenIds)
      (firstDelta (checkPrompt parser state promptTokenIds) deltaText group) finished = (afterReasoning, delta))
    (calls : toolCallPhase tools toolState afterReasoning delta = (nextTools, last, parsedDelta, handed)) :
    ∃ message : Option (DeltaMessage τ),
      parseDelta parser tools toolState state deltaText group promptTokenIds finished =
        (⟨message, handed⟩, nextTools,
          { last with previousText := parsedDelta.currentText, previousTokenIds := parsedDelta.currentTokenIds }) ∧
      message.bind DeltaMessage.reasoning = parsedDelta.message.bind DeltaMessage.reasoning ∧
      message.bind DeltaMessage.content = parsedDelta.message.bind DeltaMessage.content := by
  rw [firstDelta] at reasons
  rw [parseDelta]
  rw [reasons]
  dsimp only
  rw [calls]
  refine ⟨_, rfl, ?_⟩
  split
  · cases parsedDelta.message with
    | none => exact ⟨rfl, rfl⟩
    | some message =>
      rw [Option.map_some]
      split <;> exact ⟨rfl, rfl⟩
  · exact ⟨rfl, rfl⟩

omit distinct in
theorem toolCallPhase_reasoning (notEnded : state.reasoningEnded = false) (delta : Delta τ) :
    toolCallPhase tools toolState state delta = (toolState, state, delta, none) := by
  rw [toolCallPhase, notEnded, if_neg Bool.false_ne_true]

variable (tools) (toolState) in
omit distinct in
/-- The tool parser is handed the text of the delta, at first all that there is, and the message keeps
its reasoning. -/
theorem toolCallPhase_ended (ended : state.reasoningEnded = true) (delta : Delta τ) :
    ∃ nextTools : σ, ∃ next : StreamState, ∃ after : Delta τ,
      toolCallPhase tools toolState state delta = (nextTools, next, after,
        some (if state.toolCallTextStarted then delta.deltaText else delta.currentText)) ∧
      next.reasoningEnded = true ∧ next.toolCallTextStarted = true ∧
      (after.message.bind DeltaMessage.reasoning).getD [] = (delta.message.bind DeltaMessage.reasoning).getD [] := by
  rw [toolCallPhase, if_pos ended]
  have keeps : ∀ (reasoning : Option Text) (extracted : Option (Option Text × List τ)),
      (((reasoning.bind textOrNone).elim (extracted.map fun called => { content := called.1, toolCalls := called.2 })
        fun reasoning => some { (extracted.map fun called => ({ content := called.1, toolCalls := called.2 } :
            DeltaMessage τ)).getD {} with reasoning := some reasoning } :
          Option (DeltaMessage τ)).bind DeltaMessage.reasoning).getD [] = reasoning.getD [] := by
    intro reasoning extracted
    cases reasoning with
    | none => cases extracted <;> rfl
    | some text =>
      cases text with
      | nil => cases extracted <;> rfl
      | cons => rfl
  cases isStarted : state.toolCallTextStarted with
  | true =>
    refine ⟨_, _, _, rfl, ended, isStarted, ?_⟩
    rw [← keeps (delta.message.bind DeltaMessage.reasoning)]
    cases (delta.message.bind DeltaMessage.reasoning).bind textOrNone <;> rfl
  | false =>
    refine ⟨_, _, _, rfl, ended, rfl, ?_⟩
    rw [← keeps (delta.message.bind DeltaMessage.reasoning)]
    cases (delta.message.bind DeltaMessage.reasoning).bind textOrNone <;> rfl

/-! ## The calls before the end token -/

/-- The state after groups without the end token, whose messages showed `shown` and delivered
`delivered` of it. -/
structure Reasoning (parser : BaseThinkingReasoningParser) (state : StreamState) (tokens : List TokenId)
    (shown delivered : Text) : Prop where
  notEnded : state.reasoningEnded = false
  notStarted : state.toolCallTextStarted = false
  tokens_eq : state.previousTokenIds = tokens
  delivered_eq : delivered ++ state.pendingReasoning = shown
  withheld : state.pendingReasoning.length = tagOverlap shown toolCallStartToken

omit distinct in
theorem checkPrompt_open (promptOpen : ∀ prompt ∈ promptTokenIds, parser.isReasoningEnd prompt = false) (state : StreamState) :
    checkPrompt parser state promptTokenIds = { state with
      promptReasoningChecked := state.promptReasoningChecked || promptTokenIds.isSome } := by
  cases promptTokenIds with
  | none => simp [checkPrompt]
  | some prompt =>
    have isOpen := promptOpen prompt rfl
    rw [checkPrompt]
    cases isChecked : state.promptReasoningChecked with
    | true =>
      cases state
      simp_all
    | false => simp [isOpen]

variable (tools) (toolState) in
omit distinct in
theorem Reasoning.step {tokens group : List TokenId} {shown delivered : Text}
    (before : Reasoning parser state tokens shown delivered) (promptOpen : ∀ prompt ∈ promptTokenIds, parser.isReasoningEnd prompt = false)
    (notBefore : parser.endTokenId ∉ tokens) (notHere : parser.endTokenId ∉ group)
    (noToolCall : ¬ toolCallStartToken <:+: shown ++ shownText parser tokenText group) :
    ∃ parsed : Parsed τ, ∃ next : StreamState,
      parseDelta parser tools toolState state (textOf tokenText group) group promptTokenIds false =
        (parsed, toolState, next) ∧
      parsed.handed = none ∧ parsed.message.bind DeltaMessage.content = none ∧
      Reasoning parser next (tokens ++ group) (shown ++ shownText parser tokenText group) (delivered ++ parsed.reasoning) := by
  obtain ⟨notEnded, notStarted, isTokens, isDelivered, isWithheld⟩ := before
  let message : Option (DeltaMessage τ) :=
    parser.r1ExtractReasoningStreaming state.previousTokenIds (textOf tokenText group) group
  have isMessage : message = if group = [parser.startTokenId] then none
      else some { reasoning := some (textOf tokenText group) } := r1_withoutEnd (isTokens ▸ notBefore) notHere
  have isShown : (message.bind DeltaMessage.reasoning).getD [] = shownText parser tokenText group := by
    rw [isMessage, shownText]
    split <;> rfl
  have noContent : message.bind DeltaMessage.content = none := by
    rw [isMessage]
    split <;> rfl
  have isEnd : state.pendingReasoning <:+ shown := ⟨delivered, isDelivered⟩
  have stillNoCall : ¬ toolCallStartToken <:+: state.pendingReasoning ++ shownText parser tokenText group :=
    fun occurs => noToolCall (occurs.trans (suffix_append_self_iff.mpr isEnd).isInfix)
  obtain ⟨after, pending, intercepted, kept, isPending, stillNoContent⟩ := intercept_eq isShown noContent stillNoCall
  have reasons : reasoningPhase parser (checkPrompt parser state promptTokenIds)
      (firstDelta (checkPrompt parser state promptTokenIds) (textOf tokenText group) group) false =
      ({ checkPrompt parser state promptTokenIds with pendingReasoning := pending },
        { (firstDelta (checkPrompt parser state promptTokenIds) (textOf tokenText group) group : Delta τ) with
          message := after }) := by
    rw [checkPrompt_open promptOpen, reasoningPhase, if_neg (by simp [notEnded]), firstDelta]
    rw [if_neg (by simpa [BaseThinkingReasoningParser.isReasoningEndStreaming] using notHere), intercepted]
    rfl
  have calls := @toolCallPhase_reasoning σ τ tools toolState
    { checkPrompt parser state promptTokenIds with pendingReasoning := pending }
    (by rw [checkPrompt_open promptOpen]; exact notEnded)
  obtain ⟨message', ran, sameReasoning, sameContent⟩ := parseDelta_eq reasons (calls _)
  refine ⟨_, _, ran, rfl, sameContent.trans stillNoContent, ?_⟩
  rw [checkPrompt_open promptOpen]
  refine ⟨notEnded, notStarted, congrArg (· ++ group) isTokens, ?_, ?_⟩
  · rw [← isDelivered, append_assoc, append_assoc, Parsed.reasoning, sameReasoning]
    exact congrArg (delivered ++ ·) kept
  · rw [← tagOverlap_held toolCallStartToken_ne_nil isEnd isWithheld]
    exact isPending

variable (tools) (toolState) in
omit distinct in
theorem Reasoning.run {tokens : List TokenId} {shown delivered : Text} (before : Reasoning parser state tokens shown delivered)
    (promptOpen : ∀ prompt ∈ promptTokenIds, parser.isReasoningEnd prompt = false)
    (notBefore : parser.endTokenId ∉ tokens) {groups rest : List (List TokenId)} (notHere : parser.endTokenId ∉ groups.flatten)
    (noToolCall : ¬ toolCallStartToken <:+: shown ++ (groups.map (shownText parser tokenText)).flatten) (isMore : rest ≠ []) :
    ∃ parsed : List (Parsed τ), ∃ next : StreamState,
      parseDeltas parser tools (textOf tokenText) promptTokenIds toolState state (groups ++ rest) =
        parsed ++ parseDeltas parser tools (textOf tokenText) promptTokenIds toolState next rest ∧
      (∀ call ∈ parsed, call.handed = none ∧ call.message.bind DeltaMessage.content = none) ∧
      Reasoning parser next (tokens ++ groups.flatten) (shown ++ (groups.map (shownText parser tokenText)).flatten)
        (delivered ++ (parsed.map Parsed.reasoning).flatten) := by
  induction groups generalizing state tokens shown delivered with
  | nil =>
    refine ⟨[], state, rfl, by simp, ?_⟩
    simpa using before
  | cons group groups ih =>
    rw [flatten_cons, mem_append, not_or] at notHere
    rw [map_cons, flatten_cons, ← append_assoc] at noToolCall
    obtain ⟨parsed, next, ran, notHanded, noContent, after⟩ := before.step tools toolState
      promptOpen notBefore notHere.1 fun occurs => noToolCall (infix_append_of_infix_left occurs)
    have notSoFar : parser.endTokenId ∉ tokens ++ group := by
      rw [mem_append, not_or]
      exact ⟨notBefore, notHere.1⟩
    obtain ⟨others, last, ranRest, quiet, final⟩ := ih after notSoFar notHere.2 noToolCall
    refine ⟨parsed :: others, last, ?_, ?_, ?_⟩
    · have notLast : (groups ++ rest).isEmpty = false := by simp [isMore]
      rw [cons_append, parseDeltas, notLast, ran]
      dsimp only
      rw [ranRest, cons_append]
    · intro call isCall
      rcases mem_cons.mp isCall with rfl | isOther
      · exact ⟨notHanded, noContent⟩
      · exact quiet call isOther
    · simpa only [flatten_cons, map_cons, append_assoc] using final

/-! ## The calls from the end token on -/

structure Ended (state : StreamState) : Prop where
  ended : state.reasoningEnded = true
  nothingKept : state.toolCallTextStarted = false → state.previousText = []

omit distinct in
theorem checkPrompt_ended (before : Ended state) (promptTokenIds : Option (List TokenId)) :
    Ended (checkPrompt parser state promptTokenIds) ∧
      (checkPrompt parser state promptTokenIds).previousText = state.previousText ∧
      (checkPrompt parser state promptTokenIds).toolCallTextStarted = state.toolCallTextStarted := by
  unfold checkPrompt
  split
  · split
    · exact ⟨before, rfl, rfl⟩
    · exact ⟨⟨by simp [before.ended], before.nothingKept⟩, rfl, rfl⟩
  · exact ⟨before, rfl, rfl⟩

variable (tools) (toolState) in
omit distinct in
/-- A call that starts with the reasoning ended, by the prompt or by an earlier call, hands over its
text. -/
theorem ended_step (before : Ended (checkPrompt parser state promptTokenIds)) (group : List TokenId) (finished : Bool) :
    ∃ parsed : Parsed τ, ∃ nextTools : σ, ∃ next : StreamState,
      parseDelta parser tools toolState state (textOf tokenText group) group promptTokenIds finished =
        (parsed, nextTools, next) ∧
      parsed.handed = some (textOf tokenText group) ∧ parsed.reasoning = [] ∧ Ended next := by
  let delta : Delta τ := firstDelta (checkPrompt parser state promptTokenIds) (textOf tokenText group) group
  have reasons : reasoningPhase parser (checkPrompt parser state promptTokenIds) delta finished =
      (checkPrompt parser state promptTokenIds, delta) := by
    rw [reasoningPhase, if_pos before.ended]
  obtain ⟨nextTools, next, after, calls, stillEnded, started, sameReasoning⟩ :=
    toolCallPhase_ended tools toolState before.ended delta
  obtain ⟨message, ran, isReasoning, -⟩ := parseDelta_eq reasons calls
  refine ⟨_, _, _, ran, ?_, ?_, stillEnded, ?_⟩
  · dsimp only
    cases isStarted : (checkPrompt parser state promptTokenIds).toolCallTextStarted with
    | true => rfl
    | false =>
      have isText : delta.currentText = textOf tokenText group := by
        show (checkPrompt parser state promptTokenIds).previousText ++ textOf tokenText group = _
        rw [before.nothingKept isStarted, nil_append]
      rw [if_neg Bool.false_ne_true, isText]
  · rw [Parsed.reasoning, isReasoning, sameReasoning]
    rfl
  · intro notStarted
    rw [started] at notStarted
    cases notStarted

variable (tools) (toolState) in
omit distinct in
theorem ended_run (before : Ended (checkPrompt parser state promptTokenIds)) (groups : List (List TokenId)) :
    ((parseDeltas parser tools (textOf tokenText) promptTokenIds toolState state groups).map Parsed.reasoning).flatten = [] ∧
      ((parseDeltas parser tools (textOf tokenText) promptTokenIds toolState state groups).map Parsed.handedText).flatten =
        textOf tokenText groups.flatten ∧
      ∀ call ∈ parseDeltas parser tools (textOf tokenText) promptTokenIds toolState state groups, call.handed ≠ none := by
  induction groups generalizing state toolState with
  | nil => exact ⟨rfl, rfl, by simp [parseDeltas]⟩
  | cons group groups ih =>
    obtain ⟨parsed, nextTools, next, ran, isHanded, noReasoning, after⟩ :=
      ended_step tools toolState before group groups.isEmpty
    obtain ⟨quiet, handed, all⟩ := @ih nextTools _ (checkPrompt_ended after promptTokenIds).1
    rw [parseDeltas, ran]
    refine ⟨?_, ?_, ?_⟩
    · rw [map_cons, flatten_cons, noReasoning, quiet, append_nil]
    · rw [map_cons, flatten_cons, handed, flatten_cons, textOf_append, Parsed.handedText, isHanded,
        Option.getD_some]
    · intro call isCall
      rcases mem_cons.mp isCall with rfl | isOther
      · simp [isHanded]
      · exact all call isOther

variable (tools) (toolState) in
/-- The call with the end token delivers the reasoning before it and hands over what follows. -/
theorem Reasoning.ends (spells : Spells parser tokenText) {tokens lead before after : List TokenId} {shown delivered : Text}
    (reasons : Reasoning parser state tokens shown delivered)
    (promptOpen : ∀ prompt ∈ promptTokenIds, parser.isReasoningEnd prompt = false)
    (startFirst : lead = [] ∨ lead = [parser.startTokenId] ∧ parser.startTokenId ∉ tokens)
    (startNotHere : parser.startTokenId ∉ before ++ parser.endTokenId :: after)
    (endOnce : ¬ parser.endToken <:+: textOf tokenText before) (finished : Bool) :
    ∃ parsed : Parsed τ, ∃ nextTools : σ, ∃ next : StreamState,
      parseDelta parser tools toolState state (textOf tokenText (lead ++ before ++ parser.endTokenId :: after))
        (lead ++ before ++ parser.endTokenId :: after) promptTokenIds finished = (parsed, nextTools, next) ∧
      parsed.handed = some (textOf tokenText after) ∧ parsed.reasoning = textOf tokenText before ∧ Ended next := by
  let group := lead ++ before ++ parser.endTokenId :: after
  let message : Option (DeltaMessage τ) :=
    parser.r1ExtractReasoningStreaming state.previousTokenIds (textOf tokenText group) group
  obtain ⟨isReasoning, isContent⟩ := r1_withEnd distinct spells (reasons.tokens_eq ▸ startFirst) startNotHere endOnce
    (show message = _ from rfl)
  have endHere : parser.endTokenId ∈ group := mem_append_right _ mem_cons_self
  have opened := checkPrompt_open promptOpen state
  have phase : reasoningPhase parser (checkPrompt parser state promptTokenIds)
      (firstDelta (checkPrompt parser state promptTokenIds) (textOf tokenText group) group) finished =
      ({ checkPrompt parser state promptTokenIds with reasoningEnded := true },
        { message, currentText := textOf tokenText after, currentTokenIds := parser.extractContentIds group
          deltaText := textOf tokenText after, deltaTokenIds := parser.extractContentIds group }) := by
    rw [reasoningPhase, opened, if_neg (by simp [reasons.notEnded]), firstDelta]
    rw [if_pos (by simpa [BaseThinkingReasoningParser.isReasoningEndStreaming] using endHere)]
    show ((_, { message, currentText := (message.bind DeltaMessage.content).getD [], currentTokenIds := _
                deltaText := (message.bind DeltaMessage.content).getD [], deltaTokenIds := _ }) : StreamState × Delta τ) = _
    rw [isContent]
  obtain ⟨nextTools, next, last, calls, stillEnded, started, sameReasoning⟩ := toolCallPhase_ended tools toolState
    (show { checkPrompt parser state promptTokenIds with reasoningEnded := true }.reasoningEnded = true from rfl) _
  obtain ⟨parsedMessage, ran, sameMessage, -⟩ := parseDelta_eq phase calls
  refine ⟨_, _, _, ran, ?_, ?_, stillEnded, ?_⟩
  · dsimp only
    rw [ite_self]
  · rw [Parsed.reasoning, sameMessage, sameReasoning]
    exact isReasoning
  · intro notStarted
    rw [started] at notStarted
    cases notStarted

/-! ## The groups of an output -/

omit distinct in
theorem infix_textOf {token : TokenId} {tokens : List TokenId} (isIn : token ∈ tokens) :
    tokenText token <:+: textOf tokenText tokens := by
  obtain ⟨before, after, rfl⟩ := append_of_mem isIn
  rw [textOf_append, textOf_cons]
  exact infix_append' ..

omit distinct in
theorem shown_withoutStart {groups : List (List TokenId)} (noStart : parser.startTokenId ∉ groups.flatten) :
    (groups.map (shownText parser tokenText)).flatten = textOf tokenText groups.flatten := by
  induction groups with
  | nil => rfl
  | cons group groups ih =>
    rw [flatten_cons, mem_append, not_or] at noStart
    have notAlone : group ≠ [parser.startTokenId] := fun same => noStart.1 (by rw [same]; exact mem_singleton_self _)
    rw [map_cons, flatten_cons, flatten_cons, textOf_append, ih noStart.2, shownText,
      if_neg notAlone]

omit distinct in
theorem shown_withStart (spells : Spells parser tokenText) {groups : List (List TokenId)} {rest : List TokenId}
    (isText : groups.flatten = parser.startTokenId :: rest) (once : parser.startTokenId ∉ rest) :
    ∃ leak : Text, (groups.map (shownText parser tokenText)).flatten = leak ++ textOf tokenText rest ∧
      (leak = [] ∧ (∀ group ∈ groups, parser.startTokenId ∈ group → group = [parser.startTokenId]) ∨
        leak = parser.startToken ∧ ∃ group ∈ groups, parser.startTokenId ∈ group ∧ group ≠ [parser.startTokenId]) := by
  induction groups with
  | nil => cases isText
  | cons group groups ih =>
    rw [map_cons, flatten_cons]
    cases group with
    | nil =>
      obtain ⟨leak, isShown, which⟩ := ih isText
      have nothing : shownText parser tokenText [] = [] := by
        rw [shownText]
        split <;> rfl
      rw [nothing, nil_append]
      refine ⟨leak, isShown, which.imp (fun ⟨noLeak, alone⟩ => ⟨noLeak, ?_⟩) fun ⟨leaks, other, isOther, notAlone⟩ =>
        ⟨leaks, other, mem_cons_of_mem _ isOther, notAlone⟩⟩
      intro other isOther startHere
      rcases mem_cons.mp isOther with rfl | isOther
      · exact absurd startHere not_mem_nil
      · exact alone other isOther startHere
    | cons first more =>
      rw [flatten_cons, cons_append, List.cons.injEq] at isText
      obtain ⟨rfl, isRest⟩ := isText
      have onceHere : parser.startTokenId ∉ more ∧ parser.startTokenId ∉ groups.flatten := by
        rwa [← isRest, mem_append, not_or] at once
      rw [shown_withoutStart onceHere.2, ← isRest, textOf_append]
      cases more with
      | nil =>
        refine ⟨[], by rw [shownText, if_pos rfl]; rfl, .inl ⟨rfl, fun other isOther startHere => ?_⟩⟩
        rcases mem_cons.mp isOther with rfl | isOther
        · rfl
        · exact absurd (mem_flatten.mpr ⟨other, isOther, startHere⟩) onceHere.2
      | cons second more =>
        refine ⟨parser.startToken, ?_, .inr ⟨rfl, _, mem_cons_self, mem_cons_self, by simp⟩⟩
        rw [shownText, if_neg (by simp), textOf_cons, spells.startToken, append_assoc]

omit distinct in
theorem split_unique {token : TokenId} {before before' after after' : List TokenId} (notBefore : token ∉ before)
    (notBefore' : token ∉ before') (same : before ++ token :: after = before' ++ token :: after') :
    before = before' ∧ after = after' := by
  have isAfter : after = after' := by
    have sameAfter := congrArg (afterFirst token) same
    rwa [afterFirst_of_split notBefore, afterFirst_of_split notBefore'] at sameAfter
  subst isAfter
  exact ⟨append_cancel_right same, rfl⟩

/-- What a grouping makes of an output: the groups before the one with the end token, with the
reasoning in them, and the parts of that group. -/
structure Grouped (parser : BaseThinkingReasoningParser) (tokenText : TokenId → Text) (groups rest : List (List TokenId))
    (reasoning content lead early late behind : List TokenId) (leak : Text) : Prop where
  groups_eq : groups = beforeEnd parser groups ++ (lead ++ late ++ parser.endTokenId :: behind) :: rest
  reasoning_eq : reasoning = early ++ late
  content_eq : content = behind ++ rest.flatten
  startFirst : lead = [] ∨ lead = [parser.startTokenId] ∧ parser.startTokenId ∉ (beforeEnd parser groups).flatten
  shown : ((beforeEnd parser groups).map (shownText parser tokenText)).flatten = leak ++ textOf tokenText early
  overlap : tagOverlap (textOf tokenText (beforeEnd parser groups).flatten) toolCallStartToken =
    tagOverlap (textOf tokenText early) toolCallStartToken
  leak_eq : leak = [] ∧ (∀ group ∈ beforeEnd parser groups, parser.startTokenId ∈ group → group = [parser.startTokenId]) ∨
    leak = parser.startToken ∧
      ∃ group ∈ beforeEnd parser groups, parser.startTokenId ∈ group ∧ group ≠ [parser.startTokenId]

omit distinct in
theorem endNotIn_beforeEnd (parser : BaseThinkingReasoningParser) (groups : List (List TokenId)) :
    parser.endTokenId ∉ (beforeEnd parser groups).flatten := by
  intro isIn
  obtain ⟨group, isGroup, isHere⟩ := mem_flatten.mp isIn
  simpa [isHere] using mem_takeWhile_imp isGroup

omit distinct in
theorem ReasonsOnce.startNotIn (spells : Spells parser tokenText) {tokens first reasoning content : List TokenId}
    (once : ReasonsOnce parser tokenText tokens first reasoning content) :
    parser.startTokenId ∉ reasoning ++ parser.endTokenId :: content :=
  fun isIn => once.startOnce (spells.startToken ▸ infix_textOf isIn)

theorem ReasonsOnce.grouped (spells : Spells parser tokenText) {groups : List (List TokenId)}
    {first reasoning content : List TokenId} (once : ReasonsOnce parser tokenText groups.flatten first reasoning content) :
    ∃ rest lead early late behind leak, Grouped parser tokenText groups rest reasoning content lead early late behind leak := by
  have startOnce := once.startNotIn spells
  have endNotBefore : parser.endTokenId ∉ reasoning := fun isIn => once.endOnce (spells.endToken ▸ infix_textOf isIn)
  have endNotFirst : parser.endTokenId ∉ first := by
    rcases once.startFirst with rfl | rfl
    · exact not_mem_nil
    · simpa using (start_ne_end distinct spells).symm
  have endNotIn := endNotIn_beforeEnd parser groups
  have parts : beforeEnd parser groups ++ groups.dropWhile (fun group => parser.endTokenId ∉ group) = groups :=
    takeWhile_append_dropWhile
  cases isDropped : groups.dropWhile (fun group => parser.endTokenId ∉ group) with
  | nil =>
    rw [isDropped, append_nil] at parts
    rw [parts, once.tokens_eq] at endNotIn
    exact absurd (mem_append_right _ mem_cons_self) endNotIn
  | cons group rest =>
    rw [isDropped] at parts
    have endHere : parser.endTokenId ∈ group := by
      have stops := head?_dropWhile_not (fun group => decide (parser.endTokenId ∉ group)) groups
      rw [isDropped] at stops
      simpa using stops
    obtain ⟨ahead, behind, rfl, notAhead⟩ := eq_append_cons_of_mem endHere
    have isWhole : ((beforeEnd parser groups).flatten ++ ahead) ++ parser.endTokenId :: (behind ++ rest.flatten) =
        (first ++ reasoning) ++ parser.endTokenId :: content := by
      rw [← once.tokens_eq, ← parts, flatten_append, flatten_cons]
      rw [parts]
      simp only [append_assoc, cons_append]
    obtain ⟨isAhead, isContent⟩ := split_unique
      (fun isIn => (mem_append.mp isIn).elim endNotIn notAhead)
      (fun isIn => (mem_append.mp isIn).elim endNotFirst endNotBefore) isWhole
    rcases once.startFirst with rfl | rfl
    · -- no start token at all
      rw [nil_append] at isAhead
      have noStart : parser.startTokenId ∉ (beforeEnd parser groups).flatten := fun isIn =>
        startOnce (mem_append_left _ (isAhead ▸ mem_append_left _ isIn))
      refine ⟨rest, [], (beforeEnd parser groups).flatten, ahead, behind, [],
        ⟨parts.symm, isAhead.symm, isContent.symm, .inl rfl, ?_, rfl, .inl ⟨rfl, ?_⟩⟩⟩
      · rw [shown_withoutStart noStart]
        rfl
      · intro other isOther startHere
        exact absurd (mem_flatten.mpr ⟨other, isOther, startHere⟩) noStart
    · cases isPre : (beforeEnd parser groups).flatten with
      | nil =>
        rw [isPre, nil_append] at isAhead
        refine ⟨rest, [parser.startTokenId], [], reasoning, behind, [], ⟨isAhead ▸ parts.symm, rfl, isContent.symm,
          .inr ⟨rfl, by rw [isPre]; exact not_mem_nil⟩, ?_, by rw [isPre], .inl ⟨rfl, ?_⟩⟩⟩
        · rw [shown_withoutStart (by rw [isPre]; exact not_mem_nil), isPre]
          rfl
        · intro other isOther startHere
          have isIn := mem_flatten.mpr ⟨other, isOther, startHere⟩
          rw [isPre] at isIn
          exact absurd isIn not_mem_nil
      | cons token early =>
        rw [isPre, cons_append, singleton_append, List.cons.injEq] at isAhead
        obtain ⟨rfl, isReasoning⟩ := isAhead
        have notAgain : parser.startTokenId ∉ early := fun isIn =>
          startOnce (mem_append_left _ (isReasoning ▸ mem_append_left _ isIn))
        obtain ⟨leak, isShown, which⟩ := shown_withStart spells isPre notAgain
        refine ⟨rest, [], early, ahead, behind, leak, ⟨parts.symm, isReasoning.symm, isContent.symm, .inl rfl, isShown,
          ?_, which⟩⟩
        rw [isPre, textOf_cons, spells.startToken]
        exact distinct.startTool.tagOverlap_append toolCallStartToken_ne_nil

theorem delivered_eq_iff {leak text delivered pending : Text} (startOnce : ¬ parser.startToken <:+: text)
    (isLeak : leak = [] ∨ leak = parser.startToken) (isWhole : delivered ++ pending = leak ++ text)
    (isPending : pending.length ≤ text.length) :
    delivered = text ↔ leak = [] ∧ pending.length = 0 := by
  rcases isLeak with rfl | rfl
  · rw [nil_append] at isWhole
    constructor
    · rintro rfl
      have noMore : pending = [] := append_right_eq_self.mp isWhole
      exact ⟨rfl, by rw [noMore]; rfl⟩
    · rintro ⟨-, noMore⟩
      rwa [length_eq_zero_iff.mp noMore, append_nil] at isWhole
  · refine iff_of_false (fun same => ?_) fun ⟨noLeak, _⟩ => distinct.startSome noLeak
    subst same
    -- the text would start with the marker
    have starts : parser.startToken <+: delivered := by
      refine prefix_of_prefix_length_le (isWhole ▸ prefix_append _ _) (prefix_append delivered pending) ?_
      have lengths := congrArg List.length isWhole
      rw [length_append, length_append] at lengths
      omega
    exact startOnce starts.isInfix

omit distinct in
theorem extractReasoning_of_reasonsOnce (distinct : DistinctMarkers parser) (spells : Spells parser tokenText)
    {tokens first reasoning content : List TokenId} (once : ReasonsOnce parser tokenText tokens first reasoning content) :
    parser.extractReasoning (textOf tokenText tokens) =
      (textOf tokenText reasoning, textOrNone (textOf tokenText content)) := by
  have isText : textOf tokenText tokens = textOf tokenText first ++
      (textOf tokenText reasoning ++ (parser.endToken ++ textOf tokenText content)) := by
    rw [once.tokens_eq, textOf_append, textOf_append, textOf_cons, spells.endToken, append_assoc]
  have startFirst : textOf tokenText first = [] ∨ textOf tokenText first = parser.startToken := by
    rcases once.startFirst with rfl | rfl
    · exact .inl rfl
    · exact .inr (by rw [textOf_cons, spells.startToken]; exact append_nil _)
  have startOnce := once.startOnce
  rw [textOf_append, textOf_cons, spells.endToken] at startOnce
  rw [isText, extractReasoning_eq distinct startFirst startOnce once.endOnce]

theorem splitsAsBatch_iff_of_distinct (spells : Spells parser tokenText) {groups : List (List TokenId)}
    {first reasoning content : List TokenId} (once : ReasonsOnce parser tokenText groups.flatten first reasoning content)
    (tools : ToolParser σ τ) (toolState : σ) (promptTokenIds : Option (List TokenId)) :
    SplitsAsBatch parser tokenText groups.flatten
        (parseDeltas parser tools (textOf tokenText) promptTokenIds toolState {} groups) ↔
      MarkersApart parser tokenText promptTokenIds groups := by
  have batch := extractReasoning_of_reasonsOnce distinct spells once
  by_cases promptOpen : ∀ prompt ∈ promptTokenIds, parser.isReasoningEnd prompt = false
  · obtain ⟨rest, lead, early, late, behind, leak, grouped⟩ := once.grouped distinct spells
    have start : Reasoning parser {} [] [] [] :=
      ⟨rfl, rfl, rfl, rfl, (Nat.le_zero.mp (tagOverlap_le [] toolCallStartToken)).symm⟩
    have isLeak : leak = [] ∨ leak = parser.startToken := grouped.leak_eq.imp And.left And.left
    have earlyIn : textOf tokenText early <:+: textOf tokenText reasoning := by
      rw [grouped.reasoning_eq, textOf_append]
      exact infix_append_left
    have lateIn : textOf tokenText late <:+: textOf tokenText reasoning := by
      rw [grouped.reasoning_eq, textOf_append]
      exact infix_append_right
    have noToolCall : ¬ toolCallStartToken <:+: leak ++ textOf tokenText early := by
      rcases isLeak with rfl | rfl
      · exact fun occurs => once.noToolCall (occurs.trans earlyIn)
      · rw [distinct.startTool.infix_append]
        exact fun occurs => once.noToolCall (occurs.trans earlyIn)
    obtain ⟨parsedBefore, state, ranBefore, quiet, reasons⟩ := start.run tools toolState promptOpen
      not_mem_nil (endNotIn_beforeEnd parser groups) (by rw [nil_append, grouped.shown]; exact noToolCall)
      (cons_ne_nil (lead ++ late ++ parser.endTokenId :: behind) rest)
    rw [← grouped.groups_eq] at ranBefore
    have startNotHere : parser.startTokenId ∉ late ++ parser.endTokenId :: behind := by
      refine fun isIn => once.startNotIn spells ?_
      rw [grouped.reasoning_eq, grouped.content_eq, append_assoc, ← cons_append, ← append_assoc late]
      exact mem_append_right _ (mem_append_left _ isIn)
    obtain ⟨parsed, nextTools, next, ran, isHanded, isReasoning, ended⟩ := reasons.ends tools toolState
      distinct spells promptOpen (by simpa using grouped.startFirst) startNotHere
      (fun occurs => once.endOnce (occurs.trans lateIn)) rest.isEmpty
    obtain ⟨noMore, handedLater, allHanded⟩ := ended_run tools nextTools
      (checkPrompt_ended ended promptTokenIds).1 rest
    have isRun : parseDeltas parser tools (textOf tokenText) promptTokenIds toolState {} groups = parsedBefore ++
        parsed :: parseDeltas parser tools (textOf tokenText) promptTokenIds nextTools next rest := by
      rw [ranBefore, parseDeltas, ran]
    -- all that the calls deliver and hand over
    have delivers : ((parseDeltas parser tools (textOf tokenText) promptTokenIds toolState {} groups).map
        Parsed.reasoning).flatten = (parsedBefore.map Parsed.reasoning).flatten ++ textOf tokenText late := by
      rw [isRun, map_append, flatten_append, map_cons, flatten_cons, isReasoning, noMore,
        append_nil]
    have handsOver : ((parseDeltas parser tools (textOf tokenText) promptTokenIds toolState {} groups).map
        Parsed.handedText).flatten = textOf tokenText content := by
      have nothingBefore : (parsedBefore.map Parsed.handedText).flatten = [] := by
        rw [flatten_eq_nil_iff]
        intro text isText
        obtain ⟨call, isCall, rfl⟩ := mem_map.mp isText
        rw [Parsed.handedText, (quiet call isCall).1, Option.getD_none]
      rw [isRun, map_append, flatten_append, map_cons, flatten_cons, nothingBefore, handedLater,
        Parsed.handedText, isHanded, Option.getD_some, nil_append, grouped.content_eq, textOf_append]
    have noOther : ∀ call ∈ parseDeltas parser tools (textOf tokenText) promptTokenIds toolState {} groups,
        call.handed = none → call.message.bind DeltaMessage.content = none := by
      intro call isCall notHanded
      rw [isRun] at isCall
      rcases mem_append.mp isCall with isBefore | isLater
      · exact (quiet call isBefore).2
      · rcases mem_cons.mp isLater with rfl | isLast
        · rw [isHanded] at notHanded
          cases notHanded
        · exact absurd notHanded (allHanded call isLast)
    -- what is withheld when the end token comes
    have kept := reasons.delivered_eq
    have withheld := reasons.withheld
    rw [nil_append, nil_append, grouped.shown] at kept
    have isPending : state.pendingReasoning.length = tagOverlap (textOf tokenText early) toolCallStartToken := by
      rw [withheld, nil_append, grouped.shown]
      rcases isLeak with rfl | rfl
      · rfl
      · exact distinct.startTool.tagOverlap_append toolCallStartToken_ne_nil
    have earlyOnce : ¬ parser.startToken <:+: textOf tokenText early := by
      refine fun occurs => once.startOnce (occurs.trans (earlyIn.trans ?_))
      rw [textOf_append]
      exact infix_append_left
    have exactly := delivered_eq_iff distinct earlyOnce isLeak kept (isPending ▸ tagOverlap_le _ _)
    have splits : SplitsAsBatch parser tokenText groups.flatten
        (parseDeltas parser tools (textOf tokenText) promptTokenIds toolState {} groups) ↔
          (parsedBefore.map Parsed.reasoning).flatten = textOf tokenText early := by
      have whole : textOf tokenText reasoning = textOf tokenText early ++ textOf tokenText late := by
        rw [grouped.reasoning_eq, textOf_append]
      constructor
      · intro split
        have same := split.reasoning
        rw [delivers, batch, whole] at same
        exact append_cancel_right same
      · intro same
        exact ⟨by rw [delivers, batch, whole, same], by rw [handsOver, batch, getD_textOrNone], noOther⟩
    rw [splits, exactly, isPending, ← grouped.overlap]
    constructor
    · rintro ⟨noLeak, nothingWithheld⟩
      refine ⟨promptOpen, ?_, nothingWithheld⟩
      rcases grouped.leak_eq with ⟨-, alone⟩ | ⟨leaks, -⟩
      · exact alone
      · exact absurd (leaks.symm.trans noLeak) distinct.startSome
    · intro apart
      refine ⟨?_, apart.nothingWithheld⟩
      rcases grouped.leak_eq with ⟨noLeak, -⟩ | ⟨-, group, isGroup, startHere, notAlone⟩
      · exact noLeak
      · exact absurd (apart.startAlone group isGroup startHere) notAlone
  · -- everything is content for the stream
    refine iff_of_false (fun split => ?_) fun apart => promptOpen apart.promptOpen
    push Not at promptOpen
    obtain ⟨prompt, isPrompt, isEnded⟩ := promptOpen
    have ended : Ended (checkPrompt parser {} promptTokenIds) := by
      rw [Option.mem_def] at isPrompt
      subst isPrompt
      exact ⟨by simpa [checkPrompt] using isEnded, fun _ => by simp [checkPrompt]⟩
    have handed := split.content
    rw [(ended_run tools toolState ended groups).2.1, batch, getD_textOrNone, once.tokens_eq, textOf_append, textOf_cons,
      spells.endToken] at handed
    have lengths := congrArg List.length handed
    have positive := length_pos_iff.mpr distinct.endSome
    rw [length_append, length_append] at lengths
    omega

end

/-- The streamed reasoning and content are those of the batch parser exactly when the start token
comes alone, or with the end token, and no reasoning is withheld when the end token comes. -/
theorem splitsAsBatch_iff (spells : Spells (DeepSeekR1ReasoningParser startTokenId endTokenId) tokenText)
    {groups : List (List TokenId)} {first reasoning content : List TokenId}
    (once : ReasonsOnce (DeepSeekR1ReasoningParser startTokenId endTokenId) tokenText groups.flatten first reasoning content)
    (tools : ToolParser σ τ) (toolState : σ) (promptTokenIds : Option (List TokenId)) :
    SplitsAsBatch (DeepSeekR1ReasoningParser startTokenId endTokenId) tokenText groups.flatten
        (parseDeltas (DeepSeekR1ReasoningParser startTokenId endTokenId) tools (textOf tokenText) promptTokenIds
          toolState {} groups) ↔
      MarkersApart (DeepSeekR1ReasoningParser startTokenId endTokenId) tokenText promptTokenIds groups :=
  splitsAsBatch_iff_of_distinct r1_distinctMarkers spells once tools toolState promptTokenIds

/-- A vocabulary of the markers, a letter and a bracket. -/
def smallVocabulary (token : TokenId) : Text :=
  match token with
  | 0 => ['<', 't', 'h', 'i', 'n', 'k', '>']
  | 1 => ['<', '/', 't', 'h', 'i', 'n', 'k', '>']
  | 2 => ['a']
  | _ => ['<']

def contentOnly : ToolParser Unit Unit where
  extractToolCallsStreaming _ _ _ deltaText _ _ _ := (some (textOrNone deltaText, []), ())
  appendUnstreamedToolArgs _ toolCalls := toolCalls

theorem smallVocabulary_spells : Spells (DeepSeekR1ReasoningParser 0 1) smallVocabulary := ⟨rfl, rfl⟩

theorem splitsAsBatch_bracketInside : SplitsAsBatch (DeepSeekR1ReasoningParser 0 1) smallVocabulary [0, 3, 2, 1, 2]
    (parseDeltas (DeepSeekR1ReasoningParser 0 1) contentOnly (textOf smallVocabulary) none () {} [[0], [3, 2], [1], [2]]) := by
  have once : ReasonsOnce (DeepSeekR1ReasoningParser 0 1) smallVocabulary [[0], [3, 2], [1], [2]].flatten [0] [3, 2] [2] :=
    ⟨rfl, .inr rfl, by decide, by decide, by decide⟩
  refine (splitsAsBatch_iff smallVocabulary_spells once contentOnly () none).mpr ⟨?_, by decide, by decide⟩
  intro prompt isPrompt
  cases isPrompt

/-- A bracket before the end token is lost, and a start token that comes with reasoning is delivered. -/
theorem splitsAsBatch_fails :
    (Spells (DeepSeekR1ReasoningParser 0 1) smallVocabulary ∧
      ReasonsOnce (DeepSeekR1ReasoningParser 0 1) smallVocabulary [0, 2, 3, 1, 2] [0] [2, 3] [2]) ∧
    ¬ SplitsAsBatch (DeepSeekR1ReasoningParser 0 1) smallVocabulary [0, 2, 3, 1, 2]
      (parseDeltas (DeepSeekR1ReasoningParser 0 1) contentOnly (textOf smallVocabulary) none () {} [[0], [2], [3], [1], [2]]) ∧
    ¬ SplitsAsBatch (DeepSeekR1ReasoningParser 0 1) smallVocabulary [0, 2, 3, 1, 2]
      (parseDeltas (DeepSeekR1ReasoningParser 0 1) contentOnly (textOf smallVocabulary) none () {} [[0, 2], [3, 1], [2]]) :=
  ⟨⟨smallVocabulary_spells, ⟨rfl, .inr rfl, by decide, by decide, by decide⟩⟩,
    fun split => absurd split.reasoning (by decide), fun split => absurd split.reasoning (by decide)⟩

end DelegatingParser

end DeepSpark
