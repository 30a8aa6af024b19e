import DeepSpark.Lib.PyError
import DeepSpark.Lib.PyStr
import DeepSpark.Lib.Scanner
import DeepSpark.Parser.Delegating

/-!
`DeepSeekV32ToolParser` of `tool_parsers/deepseekv32_tool_parser.py` and `DeepSeekV4ToolParser`: streaming.

Owns the streaming state, the iterations of `_process_streaming_buffer` with what they add to the message of a
call, and `extract_tool_calls_streaming`. What a tool schema says and the JSON functions are those of `DsmlTools`.
The random ids of tool calls are left out, and the text of what is emitted is kept joined.
-/

namespace DeepSpark

open Lib Scanner

/-! ## Texts -/

def hexDigit (value : Nat) : Char := (Nat.toDigits 16 value).headD '0'

/-- What `json.dumps` writes for a character, with `ensure_ascii=False`. -/
def jsonEscapeChar (char : Char) : Text :=
  if char = '"' then ['\\', '"']
  else if char = '\\' then ['\\', '\\']
  else if char.toNat = 10 then ['\\', 'n']
  else if char.toNat = 13 then ['\\', 'r']
  else if char.toNat = 9 then ['\\', 't']
  else if char.toNat = 12 then ['\\', 'f']
  else if char.toNat = 8 then ['\\', 'b']
  else if char.toNat < 32 then ['\\', 'u', '0', '0', hexDigit (char.toNat / 16), hexDigit (char.toNat % 16)]
  else [char]

def jsonEscapeStringContent (text : Text) : Text := text.flatMap jsonEscapeChar

def jsonString (text : Text) : Text := '"' :: jsonEscapeStringContent text ++ ['"']

def parameterEndToken : Text := "</｜DSML｜parameter>".toList

def invokeEndToken : Text := "</｜DSML｜invoke>".toList

def invokeStart : Scanner Char Text :=
  (literal "<｜DSML｜invoke".toList).andThen fun _ =>
  (afterBlanks isWhiteSpace 1 "name=\"".toList).andThen fun _ =>
  (upTo '"').andThen fun name =>
  (afterBlanks isWhiteSpace 0 ">".toList).andThen fun _ text => some (name, text)

def parameterStart : Scanner Char (Text × Text) :=
  (literal "<｜DSML｜parameter".toList).andThen fun _ =>
  (afterBlanks isWhiteSpace 1 "name=\"".toList).andThen fun _ =>
  (upTo '"').andThen fun name =>
  (afterBlanks isWhiteSpace 1 "string=\"".toList).andThen fun _ =>
  (oneOf ["true".toList, "false".toList]).andThen fun stringAttr =>
  (literal "\"".toList).andThen fun _ =>
  (afterBlanks isWhiteSpace 0 ">".toList).andThen fun _ text => some ((name, stringAttr), text)

/-! ## Tools -/

inductive JsonValue where
  | text (value : Text)
  | object (entries : List (Text × JsonValue))
  | other (literal : Text)

/-- What the parser reads of the tools and calls of `tool_parsers/utils.py` and `json`. -/
structure DsmlTools (Schema : Type) where
  hasTools : Bool
  findToolProperties : Text → List (Text × Schema)
  isDict : Schema → Bool
  extractTypesFromSchema : Schema → List Text
  coerceToSchemaType : Text → List Text → Except PyError JsonValue
  dumps : JsonValue → Text
  /-- `json.loads`; none stands for a `JSONDecodeError`. -/
  loads : Text → Except PyError (Option JsonValue)

structure DeepSeekV32ToolParser (Schema : Type) where
  toolCallStartToken : Text
  toolCallEndToken : Text
  tools : DsmlTools Schema
  start_ne : toolCallStartToken ≠ []
  end_slash : ['<', '/'] <+: toolCallEndToken

namespace DeepSeekV32ToolParser

variable {Schema : Type}

def v32 (tools : DsmlTools Schema) : DeepSeekV32ToolParser Schema where
  toolCallStartToken := "<｜DSML｜function_calls>".toList
  toolCallEndToken := '<' :: '/' :: "｜DSML｜function_calls>".toList
  tools := tools
  start_ne := List.cons_ne_nil _ _
  end_slash := List.prefix_append ['<', '/'] _

def v4 (tools : DsmlTools Schema) : DeepSeekV32ToolParser Schema where
  toolCallStartToken := "<｜DSML｜tool_calls>".toList
  toolCallEndToken := '<' :: '/' :: "｜DSML｜tool_calls>".toList
  tools := tools
  start_ne := List.cons_ne_nil _ _
  end_slash := List.prefix_append ['<', '/'] _

variable (parser : DeepSeekV32ToolParser Schema)

def getParamConfig (functionName : Option Text) : List (Text × Schema) :=
  match functionName with
  | none => []
  | some name => if name.isEmpty || !parser.tools.hasTools then [] else parser.tools.findToolProperties name

def paramTypesForName (activeToolName : Option Text) (name : Text) : List Text :=
  match (parser.getParamConfig activeToolName).lookup name with
  | some schema =>
    if parser.tools.isDict schema then parser.tools.extractTypesFromSchema schema else ["string".toList]
  | none => ["string".toList]

def canStreamRawParam (paramTypes : List Text) : Bool :=
  paramTypes.all fun type => type ∈ ["object".toList, "array".toList]

def innerOf : JsonValue → Except PyError (Option JsonValue)
  | .text value => parser.tools.loads value
  | value => .ok (some value)

def repairParamDict (allowed : List Text) (paramDict : List (Text × JsonValue)) :
    List Text → Except PyError (List (Text × JsonValue))
  | [] => .ok paramDict
  | wrapper :: rest =>
    match paramDict with
    | [(key, inner)] =>
      if key ≠ wrapper ∨ wrapper ∈ allowed then repairParamDict allowed paramDict rest
      else do
        match ← parser.innerOf inner with
        | none => .ok paramDict
        | some (.object entries) =>
          if entries.all fun entry => entry.1 ∈ allowed then .ok entries
          else repairParamDict allowed paramDict rest
        | some _ => repairParamDict allowed paramDict rest
    | _ => .ok paramDict

/-- `_convert_params_with_schema` of one parameter. The types of a missing schema are those of `{}`. -/
def convertParamWithSchema (functionName name value stringAttr : Text) :
    Except PyError (List (Text × JsonValue)) := do
  let paramConfig := if parser.tools.hasTools then parser.tools.findToolProperties functionName else []
  let paramTypes :=
    match paramConfig.lookup name with
    | some schema => parser.tools.extractTypesFromSchema schema
    | none => ["string".toList]
  let converted ←
    (if stringAttr = "true".toList then .ok (JsonValue.text value)
    else parser.tools.coerceToSchemaType value paramTypes : Except PyError JsonValue)
  parser.repairParamDict (paramConfig.map Prod.fst) [(name, converted)] ["arguments".toList, "input".toList]

end DeepSeekV32ToolParser

/-! ## The streaming state -/

inductive ParamMode where
  | wrapper
  | buffered
  | string
  | raw
deriving DecidableEq, Repr

/-- An entry of `prev_tool_call_arr`; no arguments stand for `{}`. -/
structure PrevToolCall where
  name : Option Text
  arguments : Option JsonValue := none

structure DsmlStream where
  buffer : Text := []
  inToolCalls : Bool := false
  currentToolIndex : Nat := 0
  activeToolIndex : Option Nat := none
  activeToolName : Option Text := none
  activeParamName : Option Text := none
  activeParamStringAttr : Option Text := none
  activeParamMode : Option ParamMode := none
  activeParamParts : Text := []
  argsStarted : List Bool := []
  prevToolCallArr : List PrevToolCall := []
  streamedArgsForTool : List Text := []

/-- An addition to the message of a call: to `content_parts`, or by `_add_tool_call_delta`. -/
inductive Emission where
  | content (part : Text)
  | toolCall (index : Nat) (name arguments : Option Text)

/-- A round of the loop: the next state, or the state in which the loop returns. -/
inductive Iteration where
  | again (next : DsmlStream) (emitted : List Emission)
  | done (final : DsmlStream) (emitted : List Emission)

namespace DsmlStream

variable (self : DsmlStream)

/-- `self._buffer += delta_text`. -/
def grow (deltaText : Text) : DsmlStream := { self with buffer := self.buffer ++ deltaText }

def addToolCallDelta (index : Nat) (name arguments : Option Text) : DsmlStream × List Emission :=
  ({ self with streamedArgsForTool := self.streamedArgsForTool.modify index (· ++ arguments.getD []) },
    [.toolCall index name arguments])

def beginStreamingToolCall (name : Text) : DsmlStream × List Emission :=
  addToolCallDelta { self with
    currentToolIndex := self.currentToolIndex + 1
    activeToolIndex := some self.currentToolIndex
    activeToolName := some name
    prevToolCallArr := self.prevToolCallArr ++ [{ name := some name }]
    streamedArgsForTool := self.streamedArgsForTool ++ [[]]
    argsStarted := self.argsStarted ++ [false] } self.currentToolIndex (some name) (some [])

def appendParamPrefix (index : Nat) (key : Text) (asString : Bool) : DsmlStream × List Emission :=
  let opening := if self.argsStarted.getD index false then [','] else ['{']
  addToolCallDelta { self with argsStarted := self.argsStarted.set index true } index none
    (some (opening ++ jsonString key ++ [':'] ++ if asString then ['"'] else []))

def appendJsonParamValues (dumps : JsonValue → Text) (index : Nat) :
    List (Text × JsonValue) → DsmlStream → DsmlStream × List Emission
  | [], self => (self, [])
  | (key, value) :: rest, self =>
    let (self, opened) := self.appendParamPrefix index key false
    let (self, delivered) := self.addToolCallDelta index none (some (dumps value))
    let (self, others) := appendJsonParamValues dumps index rest self
    (self, opened ++ delivered ++ others)

def leaveParam : DsmlStream :=
  { self with
    activeParamName := none
    activeParamStringAttr := none
    activeParamMode := none
    activeParamParts := [] }

end DsmlStream

namespace DeepSeekV32ToolParser

variable {Schema : Type} (parser : DeepSeekV32ToolParser Schema)

def shouldBufferWrapperParam (self : DsmlStream) (name : Text) : Bool :=
  match self.activeToolIndex with
  | none => false
  | some index =>
    let paramConfig := parser.getParamConfig self.activeToolName
    !self.argsStarted.getD index false && !paramConfig.isEmpty &&
      decide (name ∈ ["arguments".toList, "input".toList]) && (paramConfig.lookup name).isNone

def finishBufferedParam (self : DsmlStream) (index : Nat) : Except PyError (DsmlStream × List Emission) :=
  match self.activeParamName, self.activeParamStringAttr with
  | some name, some stringAttr => do
      let converted ← parser.convertParamWithSchema (self.activeToolName.getD []) name self.activeParamParts
        stringAttr
      .ok (self.appendJsonParamValues parser.tools.dumps index converted)
  | _, _ => .error (.assertionError "")

/-- `_close_streaming_tool_call`. A `JSONDecodeError` is logged. -/
def closeStreamingToolCall (self : DsmlStream) : Except PyError (DsmlStream × List Emission) :=
  match self.activeToolIndex with
  | none => .ok (self, [])
  | some index => do
      let suffix := if self.argsStarted.getD index false then ['}'] else ['{', '}']
      let (self, emitted) := self.addToolCallDelta index none (some suffix)
      let arguments ← parser.tools.loads (self.streamedArgsForTool.getD index [])
      let prevToolCallArr :=
        match arguments with
        | none => self.prevToolCallArr
        | some value => self.prevToolCallArr.set index { name := self.activeToolName, arguments := some value }
      .ok ({ self.leaveParam with
        prevToolCallArr := prevToolCallArr
        activeToolIndex := none
        activeToolName := none }, emitted)

def contentRound (self : DsmlStream) : Iteration :=
  match find self.buffer parser.toolCallStartToken 0 with
  | none =>
    let sendableIdx := self.buffer.length - tagOverlap self.buffer parser.toolCallStartToken
    if sendableIdx > 0 then
      .done { self with buffer := self.buffer.drop sendableIdx } [.content (self.buffer.take sendableIdx)]
    else .done self []
  | some startIdx =>
    if startIdx > 0 then
      .again { self with buffer := self.buffer.drop startIdx } [.content (self.buffer.take startIdx)]
    else
      .again { self with
        buffer := self.buffer.drop parser.toolCallStartToken.length
        inToolCalls := true } []

def invokeRound (self : DsmlStream) : Iteration :=
  let strippedLen := self.buffer.length - (lstrip self.buffer).length
  if strippedLen ≠ 0 then .again { self with buffer := self.buffer.drop strippedLen } []
  else if parser.toolCallEndToken <+: self.buffer then
    .again { self with buffer := self.buffer.drop parser.toolCallEndToken.length, inToolCalls := false } []
  else
    match invokeStart self.buffer with
    | none => .done self []
    | some (name, rest) =>
      let (next, emitted) := DsmlStream.beginStreamingToolCall { self with buffer := rest } name
      .again next emitted

def deliverPart (self : DsmlStream) (index : Nat) (rawContent : Text) : ParamMode → DsmlStream × List Emission
  | .wrapper | .buffered => ({ self with activeParamParts := self.activeParamParts ++ rawContent }, [])
  | .string => self.addToolCallDelta index none (some (jsonEscapeStringContent rawContent))
  | .raw => self.addToolCallDelta index none (some rawContent)

def deliverEnd (self : DsmlStream) (index : Nat) (rawContent : Text) :
    ParamMode → Except PyError (DsmlStream × List Emission)
  | .wrapper | .buffered =>
    parser.finishBufferedParam { self with activeParamParts := self.activeParamParts ++ rawContent } index
  | .string => .ok (self.addToolCallDelta index none (some (jsonEscapeStringContent rawContent ++ ['"'])))
  | .raw => .ok (self.addToolCallDelta index none (some rawContent))

def valueRound (self : DsmlStream) (index : Nat) (mode : ParamMode) : Except PyError Iteration :=
  match find self.buffer parameterEndToken 0 with
  | some endPos => do
      let (next, emitted) ← parser.deliverEnd
        { self with buffer := self.buffer.drop (endPos + parameterEndToken.length) } index
        (self.buffer.take endPos) mode
      .ok (.again next.leaveParam emitted)
  | none =>
    let safeLen := self.buffer.length - tagOverlap self.buffer parameterEndToken
    if safeLen > 0 then
      let (final, emitted) := deliverPart { self with buffer := self.buffer.drop safeLen } index
        (self.buffer.take safeLen) mode
      .ok (.done final emitted)
    else .ok (.done self [])

def paramMode (self : DsmlStream) (name stringAttr : Text) : ParamMode :=
  if parser.shouldBufferWrapperParam self name then .wrapper
  else if stringAttr = "true".toList then .string
  else if !canStreamRawParam (parser.paramTypesForName self.activeToolName name) then .buffered
  else .raw

def openParam (self : DsmlStream) (index : Nat) (name stringAttr : Text) : DsmlStream × List Emission :=
  let mode := parser.paramMode self name stringAttr
  let self := { self with
    activeParamName := some name
    activeParamStringAttr := some stringAttr
    activeParamMode := some mode }
  match mode with
  | .wrapper | .buffered => (self, [])
  | .string => self.appendParamPrefix index name true
  | .raw => self.appendParamPrefix index name false

def parameterRound (self : DsmlStream) (index : Nat) : Except PyError Iteration :=
  let strippedLen := self.buffer.length - (lstrip self.buffer).length
  if strippedLen ≠ 0 then .ok (.again { self with buffer := self.buffer.drop strippedLen } [])
  else if invokeEndToken <+: self.buffer then do
    let (next, emitted) ← parser.closeStreamingToolCall
      { self with buffer := self.buffer.drop invokeEndToken.length }
    .ok (.again next emitted)
  else
    match parameterStart self.buffer with
    | none => .ok (.done self [])
    | some ((name, stringAttr), rest) =>
      let (next, emitted) := parser.openParam { self with buffer := rest } index name stringAttr
      .ok (.again next emitted)

/-- One round of the loop of `_process_streaming_buffer`. -/
def round (self : DsmlStream) : Except PyError Iteration :=
  if self.inToolCalls = false then .ok (parser.contentRound self)
  else
    match self.activeToolIndex with
    | none => .ok (parser.invokeRound self)
    | some index =>
      match self.activeParamMode with
      | some mode => parser.valueRound self index mode
      | none => parser.parameterRound self index

end DeepSeekV32ToolParser

/-! ## The buffer beside the rest of the state -/

namespace DsmlStream

variable (self : DsmlStream)

def withBuffer (buffer : Text) : DsmlStream := { self with buffer := buffer }

def rebuffer (buffer : Text) (result : DsmlStream × List Emission) : DsmlStream × List Emission :=
  (result.1.withBuffer buffer, result.2)

theorem appendJsonParamValues_withBuffer (dumps : JsonValue → Text) (index : Nat)
    (converted : List (Text × JsonValue)) (buffer : Text) :
    appendJsonParamValues dumps index converted (self.withBuffer buffer) =
      rebuffer buffer (appendJsonParamValues dumps index converted self) := by
  induction converted generalizing self with
  | nil => rfl
  | cons entry rest ih =>
    obtain ⟨key, value⟩ := entry
    have others := ih
      ((self.appendParamPrefix index key false).1.addToolCallDelta index none (some (dumps value))).1
    exact congrArg (fun result : DsmlStream × List Emission => (result.1,
      (self.appendParamPrefix index key false).2 ++
        ((self.appendParamPrefix index key false).1.addToolCallDelta index none (some (dumps value))).2 ++
        result.2)) others

end DsmlStream

namespace DeepSeekV32ToolParser

variable {Schema : Type} (parser : DeepSeekV32ToolParser Schema) (self : DsmlStream)

theorem finishBufferedParam_withBuffer (index : Nat) (buffer : Text) :
    parser.finishBufferedParam (self.withBuffer buffer) index =
      (parser.finishBufferedParam self index).map (DsmlStream.rebuffer buffer) := by
  unfold finishBufferedParam
  show (match self.activeParamName, self.activeParamStringAttr with
    | some name, some stringAttr => _
    | _, _ => _) = _
  split
  next name stringAttr _ _ =>
    show (parser.convertParamWithSchema (self.activeToolName.getD []) name self.activeParamParts stringAttr).bind _ =
      Except.map _ ((parser.convertParamWithSchema (self.activeToolName.getD []) name self.activeParamParts
        stringAttr).bind _)
    cases parser.convertParamWithSchema (self.activeToolName.getD []) name self.activeParamParts stringAttr with
    | error failure => rfl
    | ok converted =>
      exact congrArg Except.ok (self.appendJsonParamValues_withBuffer parser.tools.dumps index converted buffer)
  next => rfl

theorem closeStreamingToolCall_withBuffer (buffer : Text) :
    parser.closeStreamingToolCall (self.withBuffer buffer) =
      (parser.closeStreamingToolCall self).map (DsmlStream.rebuffer buffer) := by
  unfold closeStreamingToolCall
  show (match self.activeToolIndex with
    | none => _
    | some index => _) = _
  cases self.activeToolIndex with
  | none => rfl
  | some index =>
    let closed := self.addToolCallDelta index none
      (some (if self.argsStarted.getD index false then ['}'] else ['{', '}']))
    show (parser.tools.loads (closed.1.streamedArgsForTool.getD index [])).bind _ =
      Except.map _ ((parser.tools.loads (closed.1.streamedArgsForTool.getD index [])).bind _)
    cases parser.tools.loads (closed.1.streamedArgsForTool.getD index []) with
    | error failure => rfl
    | ok arguments => rfl

theorem deliverEnd_withBuffer (index : Nat) (rawContent : Text) (mode : ParamMode) (buffer : Text) :
    parser.deliverEnd (self.withBuffer buffer) index rawContent mode =
      (parser.deliverEnd self index rawContent mode).map (DsmlStream.rebuffer buffer) := by
  cases mode with
  | wrapper | buffered =>
    exact parser.finishBufferedParam_withBuffer
      { self with activeParamParts := self.activeParamParts ++ rawContent } index buffer
  | string | raw => rfl

theorem openParam_withBuffer (index : Nat) (name stringAttr buffer : Text) :
    parser.openParam (self.withBuffer buffer) index name stringAttr =
      DsmlStream.rebuffer buffer (parser.openParam self index name stringAttr) := by
  unfold openParam
  have sameMode : parser.paramMode (self.withBuffer buffer) name stringAttr =
      parser.paramMode self name stringAttr := rfl
  rw [sameMode]
  cases parser.paramMode self name stringAttr with
  | wrapper | buffered | string | raw => rfl

/-! ## A round shortens the buffer -/

section Rounds

variable {parser} {self} {next : DsmlStream} {emitted : List Emission}

theorem buffer_of_rebuffer {result : Except PyError (DsmlStream × List Emission)} {buffer : Text}
    (ran : result.map (DsmlStream.rebuffer buffer) = .ok (next, emitted)) : next.buffer = buffer := by
  cases result with
  | error failure => cases ran
  | ok last =>
    cases ran
    rfl

theorem dropped_shorter {buffer tag : Text} (nonempty : tag ≠ []) (isPrefix : tag <+: buffer) :
    (buffer.drop tag.length).length < buffer.length := by
  have positive := List.length_pos_iff.mpr nonempty
  have fits := isPrefix.length_le
  rw [List.length_drop]
  omega

theorem reads_invokeStart : invokeStart.Reads := by
  refine (reads_literal (List.cons_ne_nil _ _)).andThen fun _ => ?_
  refine (keeps_afterBlanks _ _ _).andThen fun _ => (keeps_upTo _).andThen fun name => ?_
  exact (keeps_afterBlanks _ _ _).andThen fun _ => keeps_pure name

theorem reads_parameterStart : parameterStart.Reads := by
  refine (reads_literal (List.cons_ne_nil _ _)).andThen fun _ => ?_
  refine (keeps_afterBlanks _ _ _).andThen fun _ => (keeps_upTo _).andThen fun name => ?_
  refine (keeps_afterBlanks _ _ _).andThen fun _ => (keeps_oneOf _).andThen fun stringAttr => ?_
  refine (keeps_literal _).andThen fun _ => (keeps_afterBlanks _ _ _).andThen fun _ => ?_
  exact keeps_pure (name, stringAttr)

theorem contentRound_shortens (ran : parser.contentRound self = .again next emitted) :
    next.buffer.length < self.buffer.length := by
  unfold contentRound at ran
  split at ran
  next absent =>
    dsimp only at ran
    split at ran <;> cases ran
  next startIdx found =>
    obtain ⟨inside, isPrefix, -⟩ := find_eq_some.mp found
    have fits := isPrefix.length_le
    have positive := List.length_pos_iff.mpr parser.start_ne
    rw [List.length_drop] at fits
    split at ran
    next later =>
      cases ran
      rw [List.length_drop]
      omega
    next =>
      cases ran
      rw [List.length_drop]
      omega

theorem toolCallEndToken_ne (parser : DeepSeekV32ToolParser Schema) : parser.toolCallEndToken ≠ [] := by
  intro isEmpty
  have slash := parser.end_slash
  rw [isEmpty, List.prefix_nil] at slash
  cases slash

theorem invokeRound_shortens (ran : parser.invokeRound self = .again next emitted) :
    next.buffer.length < self.buffer.length := by
  unfold invokeRound at ran
  dsimp only at ran
  split at ran
  next blanks =>
    cases ran
    rw [List.length_drop]
    omega
  next =>
    split at ran
    next isEnd =>
      cases ran
      exact dropped_shorter parser.toolCallEndToken_ne isEnd
    next =>
      split at ran
      next => cases ran
      next name rest read =>
        cases ran
        exact reads_invokeStart read

theorem valueRound_shortens {index : Nat} {mode : ParamMode}
    (ran : parser.valueRound self index mode = .ok (.again next emitted)) :
    next.buffer.length < self.buffer.length := by
  unfold valueRound at ran
  split at ran
  next endPos found =>
    obtain ⟨⟨last, delivered⟩, ended, isNext⟩ := bind_eq_ok.mp ran
    cases isNext
    have kept := buffer_of_rebuffer ((parser.deliverEnd_withBuffer self index _ mode _).symm.trans ended)
    obtain ⟨inside, isPrefix, -⟩ := find_eq_some.mp found
    have fits := isPrefix.length_le
    have positive : 0 < parameterEndToken.length := by decide
    rw [List.length_drop] at fits
    show last.buffer.length < _
    rw [kept, List.length_drop]
    omega
  next =>
    dsimp only at ran
    split at ran <;> cases ran

theorem parameterRound_shortens {index : Nat} (ran : parser.parameterRound self index = .ok (.again next emitted)) :
    next.buffer.length < self.buffer.length := by
  unfold parameterRound at ran
  dsimp only at ran
  split at ran
  next blanks =>
    cases ran
    rw [List.length_drop]
    omega
  next =>
    split at ran
    next isEnd =>
      obtain ⟨⟨last, delivered⟩, closed, isNext⟩ := bind_eq_ok.mp ran
      cases isNext
      have kept := buffer_of_rebuffer ((parser.closeStreamingToolCall_withBuffer self _).symm.trans closed)
      rw [kept]
      exact dropped_shorter (by decide) isEnd
    next =>
      split at ran
      next => cases ran
      next name stringAttr rest read =>
        cases ran
        have kept : (parser.openParam (self.withBuffer rest) index name stringAttr).1.buffer = rest := by
          rw [openParam_withBuffer]
          rfl
        exact kept.symm ▸ reads_parameterStart read

theorem round_shortens (ran : parser.round self = .ok (.again next emitted)) :
    next.buffer.length < self.buffer.length := by
  unfold round at ran
  split at ran
  next =>
    exact contentRound_shortens (Except.ok.inj ran)
  next =>
    split at ran
    next => exact invokeRound_shortens (Except.ok.inj ran)
    next index active =>
      split at ran
      next mode _ => exact valueRound_shortens ran
      next => exact parameterRound_shortens ran

end Rounds

def processStreamingBuffer (self : DsmlStream) : Except PyError (DsmlStream × List Emission) :=
  match _ : parser.round self with
  | .error failure => .error failure
  | .ok (.done final emitted) => .ok (final, emitted)
  | .ok (.again next emitted) => do
      let (final, others) ← processStreamingBuffer next
      .ok (final, emitted ++ others)
termination_by self.buffer.length
decreasing_by exact round_shortens ‹_›

end DeepSeekV32ToolParser

/-! ## Messages -/

structure DeltaToolCall where
  index : Nat
  name : Option Text
  arguments : Option Text

def DeltaToolCall.add (delta : DeltaToolCall) (name arguments : Option Text) : DeltaToolCall :=
  { delta with
    name := name.or delta.name
    arguments :=
      match arguments with
      | none => delta.arguments
      | some more => some (delta.arguments.getD [] ++ more) }

/-- `tool_call_deltas` after another call of `_add_tool_call_delta`: an entry for each index. -/
def mergeToolCallDelta (index : Nat) (name arguments : Option Text) : List DeltaToolCall → List DeltaToolCall
  | [] => [⟨index, name, arguments⟩]
  | delta :: rest =>
    if delta.index = index then delta.add name arguments :: rest
    else delta :: mergeToolCallDelta index name arguments rest

namespace Emission

def contentParts : List Emission → List Text
  | [] => []
  | .content part :: rest => part :: contentParts rest
  | .toolCall .. :: rest => contentParts rest

def toolCallDeltas (emitted : List Emission) : List DeltaToolCall :=
  emitted.foldl (fun deltas emission =>
    match emission with
    | .content _ => deltas
    | .toolCall index name arguments => mergeToolCallDelta index name arguments deltas) []

end Emission

namespace DeepSeekV32ToolParser

variable {Schema : Type} (parser : DeepSeekV32ToolParser Schema)

def extractToolCallsStreaming (self : DsmlStream) (previousText deltaText : Text) (deltaTokenIds : List TokenId) :
    Except PyError (DsmlStream × Option (DeltaMessage DeltaToolCall)) := do
  let self := if previousText.isEmpty then {} else self
  let (self, emitted) ← parser.processStreamingBuffer (self.grow deltaText)
  let contentParts := Emission.contentParts emitted
  let toolCallDeltas := Emission.toolCallDeltas emitted
  if !contentParts.isEmpty || !toolCallDeltas.isEmpty then
    .ok (self, some { content := textOrNone contentParts.flatten, toolCalls := toolCallDeltas })
  else if deltaText.isEmpty && !deltaTokenIds.isEmpty && !self.prevToolCallArr.isEmpty then
    .ok (self, some { content := some [] })
  else .ok (self, none)

/-- The calls for the pieces of a text, each with the ids of its tokens. -/
def extractChunks (self : DsmlStream) (previousText : Text) :
    List (Text × List TokenId) → Except PyError (DsmlStream × List (DeltaMessage DeltaToolCall))
  | [] => .ok (self, [])
  | (deltaText, deltaTokenIds) :: rest => do
      let (self, message) ← parser.extractToolCallsStreaming self previousText deltaText deltaTokenIds
      let (self, messages) ← extractChunks self (previousText ++ deltaText) rest
      .ok (self, message.toList ++ messages)

end DeepSeekV32ToolParser

/-! ## What a client has received -/

/-- The content, and by index the name and the argument text of each tool call. -/
@[ext]
structure Received where
  content : Text
  name : Nat → Option Text
  arguments : Nat → Text

namespace Received

/-- A later name replaces an earlier one, and later text follows. -/
instance : Mul Received where
  mul first second :=
    { content := first.content ++ second.content
      name := fun index => (second.name index).or (first.name index)
      arguments := fun index => first.arguments index ++ second.arguments index }

instance : One Received where
  one := ⟨[], fun _ => none, fun _ => []⟩

instance : Monoid Received where
  mul_assoc first second third := by
    ext1
    · exact List.append_assoc _ _ _
    · funext index
      exact (Option.or_assoc ..).symm
    · funext index
      exact List.append_assoc _ _ _
  one_mul received := by
    ext1
    · rfl
    · funext index
      exact Option.or_none
    · rfl
  mul_one received := by
    ext1
    · exact List.append_nil _
    · rfl
    · funext index
      exact List.append_nil _

def ofContent (part : Text) : Received := ⟨part, fun _ => none, fun _ => []⟩

def ofToolCall (delta : DeltaToolCall) : Received where
  content := []
  name := fun index => if delta.index = index then delta.name else none
  arguments := fun index => if delta.index = index then delta.arguments.getD [] else []

def ofMessage (message : DeltaMessage DeltaToolCall) : Received :=
  ofContent (message.content.getD []) * (message.toolCalls.map ofToolCall).prod

def ofMessages (messages : List (DeltaMessage DeltaToolCall)) : Received := (messages.map ofMessage).prod

end Received

end DeepSpark
