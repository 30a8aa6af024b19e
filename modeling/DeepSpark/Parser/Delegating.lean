import DeepSpark.Lib.TagOverlap
import DeepSpark.Output.Detokenizer

/-!
Streaming a response that reasons and calls tools (`parser/abstract_parser.py`,
`reasoning/basic_parsers.py`, `reasoning/deepseek_r1_reasoning_parser.py`).

Owns `parse_delta` of `DelegatingParser` with `DeepSeekR1ReasoningParser`, a tool parser that
recovers tool calls from the reasoning and `tool_choice` auto, with the batch counterpart
`extract_reasoning`. The tool parser is what it makes of the texts it is handed.
-/

namespace DeepSpark

open Lib

/-! ## Texts -/

/-- `text.find(pattern)`. -/
def pyFind (text pattern : Text) : Int :=
  match find text pattern 0 with
  | some index => index
  | none => -1

def sliceBound (text : Text) (bound : Int) : Nat :=
  (if bound < 0 then text.length + bound else bound).toNat

/-- `text[start:]`. -/
def pySliceFrom (text : Text) (start : Int) : Text := text.drop (sliceBound text start)

/-- `text[:stop]`. -/
def pySliceTo (text : Text) (stop : Int) : Text := text.take (sliceBound text stop)

/-- `text[start:stop]`. -/
def pySlice (text : Text) (start stop : Int) : Text := (pySliceTo text stop).drop (sliceBound text start)

/-- `text.partition(separator)`. -/
def pyPartition (text separator : Text) : Text × Text × Text :=
  match find text separator 0 with
  | some index => (text.take index, separator, text.drop (index + separator.length))
  | none => (text, [], [])

/-- `content if content else None`. -/
def textOrNone (text : Text) : Option Text := if text.isEmpty then none else some text

/-- `DeltaMessage`, with tool calls of any kind. -/
structure DeltaMessage (τ : Type) where
  content : Option Text := none
  reasoning : Option Text := none
  toolCalls : List τ := []

/-! ## `DeepSeekR1ReasoningParser` -/

structure BaseThinkingReasoningParser where
  startToken : Text
  endToken : Text
  startTokenId : TokenId
  endTokenId : TokenId

namespace BaseThinkingReasoningParser

variable {τ : Type} (parser : BaseThinkingReasoningParser)

/-- `is_reasoning_end`: the last marker is the end token. -/
def isReasoningEnd (inputIds : List TokenId) : Bool :=
  match inputIds.reverse.find? fun token => token = parser.startTokenId ∨ token = parser.endTokenId with
  | some token => token != parser.startTokenId
  | none => false

def isReasoningEndStreaming (deltaIds : List TokenId) : Bool := parser.endTokenId ∈ deltaIds

/-- `extract_content_ids`, which wants a token behind the end token. -/
def extractContentIds (inputIds : List TokenId) : List TokenId :=
  if parser.endTokenId ∉ inputIds.dropLast then []
  else inputIds.drop (inputIds.idxOf parser.endTokenId + 1)

def splitAtEnd (deltaText : Text) : DeltaMessage τ :=
  let endIndex := pyFind deltaText parser.endToken
  { reasoning := some (pySliceTo deltaText endIndex)
    content := textOrNone (pySliceFrom deltaText (endIndex + parser.endToken.length)) }

def extractReasoningStreaming (previousTokenIds : List TokenId) (deltaText : Text) (deltaTokenIds : List TokenId) :
    Option (DeltaMessage τ) :=
  -- a marker that comes alone is skipped
  if deltaTokenIds = [parser.startTokenId] ∨ deltaTokenIds = [parser.endTokenId] then none
  else if parser.startTokenId ∈ previousTokenIds then
    if parser.endTokenId ∈ deltaTokenIds then some (parser.splitAtEnd deltaText)
    else if parser.endTokenId ∈ previousTokenIds then some { content := some deltaText }
    else some { reasoning := some deltaText }
  else if parser.startTokenId ∈ deltaTokenIds then
    if parser.endTokenId ∈ deltaTokenIds then
      let startIndex := pyFind deltaText parser.startToken
      let endIndex := pyFind deltaText parser.endToken
      some
        { reasoning := some (pySlice deltaText (startIndex + parser.startToken.length) endIndex)
          content := textOrNone (pySliceFrom deltaText (endIndex + parser.endToken.length)) }
    else some { reasoning := some deltaText }
  else some { content := some deltaText }

def extractReasoning (modelOutput : Text) : Text × Option Text :=
  let parts := pyPartition modelOutput parser.startToken
  let modelOutput := if parts.2.1.isEmpty then parts.1 else parts.2.2
  if ¬ parser.endToken <:+: modelOutput then (modelOutput, none)
  else
    let parts := pyPartition modelOutput parser.endToken
    (parts.1, textOrNone parts.2.2)

end BaseThinkingReasoningParser

def DeepSeekR1ReasoningParser (startTokenId endTokenId : TokenId) : BaseThinkingReasoningParser :=
  { startToken := ['<', 't', 'h', 'i', 'n', 'k', '>']
    endToken := ['<', '/', 't', 'h', 'i', 'n', 'k', '>']
    startTokenId, endTokenId }

/-- `extract_reasoning_streaming` of `DeepSeekR1ReasoningParser`: without a start token, the text
is reasoning up to the end token. -/
def BaseThinkingReasoningParser.r1ExtractReasoningStreaming {τ : Type} (parser : BaseThinkingReasoningParser)
    (previousTokenIds : List TokenId) (deltaText : Text) (deltaTokenIds : List TokenId) : Option (DeltaMessage τ) :=
  let ret := parser.extractReasoningStreaming previousTokenIds deltaText deltaTokenIds
  if ret.isSome ∧ parser.startTokenId ∉ previousTokenIds ∧ parser.startTokenId ∉ deltaTokenIds then
    if parser.endTokenId ∈ deltaTokenIds then some (parser.splitAtEnd deltaText)
    else if parser.endTokenId ∈ previousTokenIds then some { content := some deltaText }
    else some { reasoning := some deltaText }
  else ret

/-! ## `DelegatingParser` -/

/-- What `DeepSeekV4ToolParser` makes of the texts it is handed. Its messages carry content and tool
calls. -/
structure ToolParser (σ τ : Type) where
  extractToolCallsStreaming : σ → (previousText currentText deltaText : Text) →
    (previousTokenIds currentTokenIds deltaTokenIds : List TokenId) → Option (Option Text × List τ) × σ
  appendUnstreamedToolArgs : σ → List τ → List τ

def toolCallStartToken : Text :=
  ['<', '｜', 'D', 'S', 'M', 'L', '｜', 't', 'o', 'o', 'l', '_', 'c', 'a', 'l', 'l', 's', '>']

/-- `StreamState`, without what only the other tool choices use. -/
structure StreamState where
  reasoningEnded : Bool := false
  toolCallTextStarted : Bool := false
  promptReasoningChecked : Bool := false
  previousText : Text := []
  previousTokenIds : List TokenId := []
  pendingReasoning : Text := []

/-- The locals of `parse_delta`. -/
structure Delta (τ : Type) where
  message : Option (DeltaMessage τ)
  currentText : Text
  currentTokenIds : List TokenId
  deltaText : Text
  deltaTokenIds : List TokenId

namespace DelegatingParser

variable {σ τ : Type} (parser : BaseThinkingReasoningParser) (tools : ToolParser σ τ)

/-- `_intercept_dangling_tool_marker`: the message, `carry_text` and `ended`, and
`pending_reasoning` afterwards. -/
def interceptDanglingToolMarker (pendingReasoning : Text) (message : Option (DeltaMessage τ)) (finished : Bool) :
    Option (DeltaMessage τ) × Text × Bool × Text :=
  let reasoningDelta := (message.bind DeltaMessage.reasoning).getD []
  if reasoningDelta.isEmpty ∧ pendingReasoning.isEmpty then (message, [], false, pendingReasoning)
  else
    let buf := pendingReasoning ++ reasoningDelta
    match find buf toolCallStartToken 0 with
    | some index =>
      (some { message.getD {} with reasoning := textOrNone (buf.take index), content := none },
        buf.drop index, true, [])
    | none =>
      let overlap := if finished then 0 else tagOverlap buf toolCallStartToken
      let emitted := buf.take (buf.length - overlap)
      let pending := buf.drop (buf.length - overlap)
      if emitted.isEmpty then (message.map fun message => { message with reasoning := none }, [], false, pending)
      else (some { message.getD {} with reasoning := some emitted }, [], false, pending)

/-- `parse_delta` up to the tool calls. -/
def reasoningPhase (state : StreamState) (delta : Delta τ) (finished : Bool) : StreamState × Delta τ :=
  if state.reasoningEnded then (state, delta)
  else
    let message := parser.r1ExtractReasoningStreaming state.previousTokenIds delta.deltaText delta.deltaTokenIds
    if parser.isReasoningEndStreaming delta.deltaTokenIds then
      let contentIds := parser.extractContentIds delta.deltaTokenIds
      let content := (message.bind DeltaMessage.content).getD []
      ({ state with reasoningEnded := true },
        { message, currentText := content, currentTokenIds := contentIds, deltaText := content
          deltaTokenIds := contentIds })
    else
      -- a tool call may start without an end token before it
      let (message, carryText, markerEnded, pending) :=
        interceptDanglingToolMarker state.pendingReasoning message finished
      if markerEnded then
        ({ state with reasoningEnded := true, pendingReasoning := pending },
          { message, currentText := carryText, currentTokenIds := delta.currentTokenIds, deltaText := carryText
            deltaTokenIds := delta.currentTokenIds })
      else ({ state with pendingReasoning := pending }, { delta with message })

/-- The call of the tool parser in `parse_delta`, with the text it is handed. -/
def toolCallPhase (toolState : σ) (state : StreamState) (delta : Delta τ) :
    σ × StreamState × Delta τ × Option Text :=
  if state.reasoningEnded then
    let (state, delta) :=
      if state.toolCallTextStarted then (state, delta)
      else
        ({ state with toolCallTextStarted := true, previousText := [], previousTokenIds := [] },
          { delta with deltaText := delta.currentText, deltaTokenIds := delta.currentTokenIds })
    let reasoning := delta.message.bind DeltaMessage.reasoning
    let (extracted, toolState) := tools.extractToolCallsStreaming toolState state.previousText delta.currentText
      delta.deltaText state.previousTokenIds delta.currentTokenIds delta.deltaTokenIds
    let message := extracted.map fun (content, toolCalls) => { content, toolCalls : DeltaMessage τ }
    -- the message of a boundary delta keeps its reasoning
    let message :=
      match reasoning.bind textOrNone with
      | some reasoning => some { message.getD {} with reasoning := some reasoning }
      | none => message
    (toolState, state, { delta with message }, some delta.deltaText)
  else (toolState, state, delta, none)

/-- What a call of `parse_delta` returns, and the text it handed to the tool parser. -/
structure Parsed (τ : Type) where
  message : Option (DeltaMessage τ)
  handed : Option Text

/-- The look at the prompt with which `parse_delta` starts. -/
def checkPrompt (state : StreamState) (promptTokenIds : Option (List TokenId)) : StreamState :=
  match promptTokenIds with
  | some prompt =>
    if state.promptReasoningChecked then state
    else
      { state with
        promptReasoningChecked := true
        reasoningEnded := state.reasoningEnded || parser.isReasoningEnd prompt }
  | none => state

def parseDelta (toolState : σ) (state : StreamState) (deltaText : Text) (deltaTokenIds : List TokenId)
    (promptTokenIds : Option (List TokenId)) (finished : Bool) : Parsed τ × σ × StreamState :=
  let state := checkPrompt parser state promptTokenIds
  let delta : Delta τ :=
    { message := none
      currentText := state.previousText ++ deltaText
      currentTokenIds := state.previousTokenIds ++ deltaTokenIds
      deltaText, deltaTokenIds }
  let (state, delta) := reasoningPhase parser state delta finished
  let (toolState, state, delta, handed) := toolCallPhase tools toolState state delta
  let state := { state with previousText := delta.currentText, previousTokenIds := delta.currentTokenIds }
  -- `finalize_generation`
  let message :=
    if finished then
      delta.message.map fun message =>
        if message.toolCalls.isEmpty then message
        else { message with toolCalls := tools.appendUnstreamedToolArgs toolState message.toolCalls }
    else delta.message
  ({ message, handed }, toolState, state)

/-- The calls of `parse_delta`, one a group of tokens, the last one with `finished`. -/
def parseDeltas (text : List TokenId → Text) (promptTokenIds : Option (List TokenId)) :
    σ → StreamState → List (List TokenId) → List (Parsed τ)
  | _, _, [] => []
  | toolState, state, group :: rest =>
    let (parsed, toolState, state) :=
      parseDelta parser tools toolState state (text group) group promptTokenIds rest.isEmpty
    parsed :: parseDeltas text promptTokenIds toolState state rest

end DelegatingParser

end DeepSpark
