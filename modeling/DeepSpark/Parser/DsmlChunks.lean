import DeepSpark.Parser.Dsml

/-!
The streaming of DSML tool calls does not depend on how the text is cut.

Owns what a client has received after the calls for the pieces of a text, that every round of the loop is
the same with more text behind the buffer, and that all cuts of a text are received the same.
-/

namespace DeepSpark

open Lib List

/-! ## What a message carries -/

namespace Received

theorem ofContent_append (first second : Text) :
    ofContent (first ++ second) = ofContent first * ofContent second := rfl

theorem commute_ofContent (part : Text) (delta : DeltaToolCall) :
    Commute (ofContent part) (ofToolCall delta) := by
  ext1
  · exact (append_nil part).trans (nil_append part).symm
  · funext index
    exact Option.or_none.trans Option.none_or.symm
  · funext index
    exact (nil_append _).trans (append_nil _).symm

theorem commute_ofToolCall {first second : DeltaToolCall} (differ : first.index ≠ second.index) :
    Commute (ofToolCall first) (ofToolCall second) := by
  ext1
  · rfl
  · funext index
    show (if second.index = index then second.name else none).or (if first.index = index then first.name else none) =
      (if first.index = index then first.name else none).or (if second.index = index then second.name else none)
    by_cases isFirst : first.index = index
    · have notSecond : second.index ≠ index := fun same => differ (isFirst.trans same.symm)
      rw [if_neg notSecond, Option.none_or, Option.or_none]
    · rw [if_neg isFirst, Option.none_or, Option.or_none]
  · funext index
    show (if first.index = index then first.arguments.getD [] else []) ++
        (if second.index = index then second.arguments.getD [] else []) =
      (if second.index = index then second.arguments.getD [] else []) ++
        (if first.index = index then first.arguments.getD [] else [])
    by_cases isFirst : first.index = index
    · have notSecond : second.index ≠ index := fun same => differ (isFirst.trans same.symm)
      rw [if_neg notSecond, nil_append, append_nil]
    · rw [if_neg isFirst, nil_append, append_nil]

theorem ofToolCall_add (delta : DeltaToolCall) (name arguments : Option Text) :
    ofToolCall (delta.add name arguments) = ofToolCall delta * ofToolCall ⟨delta.index, name, arguments⟩ := by
  ext1
  · rfl
  · funext index
    show (if delta.index = index then name.or delta.name else none) =
      (if delta.index = index then name else none).or (if delta.index = index then delta.name else none)
    split <;> rfl
  · funext index
    show (if delta.index = index then (delta.add name arguments).arguments.getD [] else []) =
      (if delta.index = index then delta.arguments.getD [] else []) ++
        (if delta.index = index then arguments.getD [] else [])
    split
    next =>
      cases arguments with
      | none => exact (append_nil _).symm
      | some more => rfl
    next => rfl

theorem ofToolCall_arguments (index : Nat) (first second : Text) :
    ofToolCall ⟨index, none, some (first ++ second)⟩ =
      ofToolCall ⟨index, none, some first⟩ * ofToolCall ⟨index, none, some second⟩ :=
  ofToolCall_add ⟨index, none, some first⟩ none (some second)

theorem ofToolCall_nothing (index : Nat) : ofToolCall ⟨index, none, some []⟩ = 1 := by
  ext1
  · rfl
  · funext other
    exact ite_self _
  · funext other
    exact ite_self _

end Received

open Received Scanner

variable {deltas : List DeltaToolCall}

theorem mem_mergeToolCallDelta {index : Nat} {name arguments : Option Text}
    {other : Nat} (member : other ∈ (mergeToolCallDelta index name arguments deltas).map DeltaToolCall.index) :
    other = index ∨ other ∈ deltas.map DeltaToolCall.index := by
  induction deltas with
  | nil => exact .inl (mem_singleton.mp member)
  | cons delta rest ih =>
    rw [mergeToolCallDelta] at member
    split at member
    next => exact .inr member
    next =>
      rcases mem_cons.mp member with isHead | inRest
      · exact .inr (mem_cons.mpr (.inl isHead))
      · exact (ih inRest).imp_right (mem_cons_of_mem _)

theorem mergeToolCallDelta_nodup (index : Nat) (name arguments : Option Text)
    (distinct : (deltas.map DeltaToolCall.index).Nodup) :
    ((mergeToolCallDelta index name arguments deltas).map DeltaToolCall.index).Nodup := by
  induction deltas with
  | nil => exact nodup_singleton index
  | cons delta rest ih =>
    rw [mergeToolCallDelta]
    split
    next => exact distinct
    next differ =>
      obtain ⟨isNew, restDistinct⟩ := nodup_cons.mp distinct
      refine nodup_cons.mpr ⟨fun member => ?_, ih restDistinct⟩
      exact (mem_mergeToolCallDelta member).elim differ isNew

theorem mergeToolCallDelta_prod (index : Nat) (name arguments : Option Text)
    (distinct : (deltas.map DeltaToolCall.index).Nodup) :
    ((mergeToolCallDelta index name arguments deltas).map ofToolCall).prod =
      (deltas.map ofToolCall).prod * ofToolCall ⟨index, name, arguments⟩ := by
  induction deltas with
  | nil =>
    show ofToolCall _ * 1 = 1 * ofToolCall _
    rw [mul_one, one_mul]
  | cons delta rest ih =>
    obtain ⟨isNew, restDistinct⟩ := nodup_cons.mp distinct
    rw [mergeToolCallDelta]
    split
    next same =>
      have apart : Commute (ofToolCall ⟨index, name, arguments⟩) (rest.map ofToolCall).prod := by
        refine Commute.list_prod_right _ _ fun received member => ?_
        obtain ⟨other, inRest, rfl⟩ := mem_map.mp member
        refine commute_ofToolCall fun sameIndex => isNew ?_
        exact mem_map.mpr ⟨other, inRest, sameIndex.symm.trans same.symm⟩
      rw [map_cons, prod_cons, ofToolCall_add, map_cons, prod_cons, same, mul_assoc, mul_assoc,
        apart.eq]
    next =>
      rw [map_cons, prod_cons, ih restDistinct, map_cons, prod_cons, mul_assoc]

namespace Emission

def received : Emission → Received
  | .content part => ofContent part
  | .toolCall index name arguments => ofToolCall ⟨index, name, arguments⟩

theorem received_prod (emitted : List Emission) :
    ofContent (contentParts emitted).flatten * ((toolCallDeltas emitted).map ofToolCall).prod =
      (emitted.map received).prod := by
  suffices added : ∀ deltas : List DeltaToolCall, (deltas.map DeltaToolCall.index).Nodup →
      ofContent (contentParts emitted).flatten *
          ((emitted.foldl (fun deltas emission =>
            match emission with
            | .content _ => deltas
            | .toolCall index name arguments => mergeToolCallDelta index name arguments deltas)
            deltas).map ofToolCall).prod =
        (deltas.map ofToolCall).prod * (emitted.map received).prod by
    have whole := added [] nodup_nil
    rwa [map_nil, prod_nil, one_mul] at whole
  induction emitted with
  | nil =>
    intro deltas _
    show 1 * (deltas.map ofToolCall).prod = (deltas.map ofToolCall).prod * 1
    rw [one_mul, mul_one]
  | cons emission rest ih =>
    intro deltas distinct
    cases emission with
    | content part =>
      have apart : Commute (ofContent part) (deltas.map ofToolCall).prod := by
        refine Commute.list_prod_right _ _ fun received member => ?_
        obtain ⟨delta, _, rfl⟩ := mem_map.mp member
        exact commute_ofContent part delta
      rw [contentParts, flatten_cons, ofContent_append, mul_assoc, foldl_cons,
        ih deltas distinct, ← mul_assoc, apart.eq, mul_assoc, map_cons, prod_cons]
      rfl
    | toolCall index name arguments =>
      rw [contentParts, foldl_cons,
        ih _ (mergeToolCallDelta_nodup index name arguments distinct),
        mergeToolCallDelta_prod index name arguments distinct, mul_assoc, map_cons, prod_cons]
      rfl

end Emission

variable {failure : PyError}

namespace DeepSeekV32ToolParser

variable {Schema : Type} (parser : DeepSeekV32ToolParser Schema)

/-! ## The loop and what is received from it -/

def seen (result : DsmlStream × List Emission) : DsmlStream × Received :=
  (result.1, (result.2.map Emission.received).prod)

def consumed (self : DsmlStream) : Except PyError (DsmlStream × Received) :=
  (parser.processStreamingBuffer self).map seen

variable {parser} {self : DsmlStream}

theorem consumed_error (ran : parser.round self = .error failure) :
    parser.consumed self = .error failure := by
  rw [consumed, processStreamingBuffer]
  split
  next found isError => exact congrArg _ (Except.error.inj (isError.symm.trans ran))
  next isDone => cases isDone.symm.trans ran
  next isAgain => cases isAgain.symm.trans ran

theorem consumed_done {final : DsmlStream} {emitted : List Emission}
    (ran : parser.round self = .ok (.done final emitted)) :
    parser.consumed self = .ok (seen (final, emitted)) := by
  rw [consumed, processStreamingBuffer]
  split
  next isError => cases isError.symm.trans ran
  next isDone =>
    cases isDone.symm.trans ran
    rfl
  next isAgain => cases isAgain.symm.trans ran

theorem consumed_again {next : DsmlStream} {emitted : List Emission}
    (ran : parser.round self = .ok (.again next emitted)) :
    parser.consumed self = behind (emitted.map Emission.received).prod (parser.consumed next) := by
  rw [consumed, processStreamingBuffer]
  split
  next isError => cases isError.symm.trans ran
  next isDone => cases isDone.symm.trans ran
  next isAgain =>
    cases isAgain.symm.trans ran
    rw [consumed]
    cases parser.processStreamingBuffer next with
    | error failure => rfl
    | ok last =>
      show Except.ok (last.1, ((emitted ++ last.2).map Emission.received).prod) = _
      rw [map_append, prod_append]
      rfl

/-! ## Content -/

section Content

variable (outside : self.inToolCalls = false)
include outside

theorem round_content : parser.round self = .ok (parser.contentRound self) := if_pos outside

theorem consumed_content_absent {sent held : Text}
    (withholds : Withholds self.buffer parser.toolCallStartToken sent held) :
    parser.consumed self = .ok (self.withBuffer held, ofContent sent) := by
  obtain ⟨absent, isBuffer, isHeld⟩ := withholds
  have ran : parser.round self = .ok (parser.contentRound self) := round_content outside
  have isLength : self.buffer.length - tagOverlap self.buffer parser.toolCallStartToken = sent.length := by
    rw [← isHeld, isBuffer, length_append]
    omega
  have isDrop : self.buffer.drop sent.length = held := by rw [isBuffer, drop_left]
  have isTake : self.buffer.take sent.length = sent := by rw [isBuffer, take_left]
  unfold contentRound at ran
  rw [absent] at ran
  dsimp only at ran
  rw [isLength, isDrop, isTake] at ran
  split at ran
  next =>
    rw [consumed_done ran]
    exact congrArg (fun received => Except.ok (self.withBuffer held, received)) (mul_one (ofContent sent))
  next isEmpty =>
    have isNil : sent = [] := eq_nil_of_length_eq_zero (by omega)
    rw [isNil, nil_append] at isBuffer
    rw [consumed_done ran, isNil, ← isBuffer]
    rfl

theorem consumed_content_found {startIdx : Nat} (found : find self.buffer parser.toolCallStartToken 0 = some startIdx) :
    parser.consumed self = behind (ofContent (self.buffer.take startIdx))
      (parser.consumed { self with
        buffer := self.buffer.drop (startIdx + parser.toolCallStartToken.length)
        inToolCalls := true }) := by
  have first : ∀ {state : DsmlStream}, state.inToolCalls = false →
      find state.buffer parser.toolCallStartToken 0 = some 0 → parser.consumed state =
        parser.consumed { state with
          buffer := state.buffer.drop parser.toolCallStartToken.length
          inToolCalls := true } := by
    intro state isOutside isFirst
    have ran : parser.round state = .ok (parser.contentRound state) := round_content isOutside
    unfold contentRound at ran
    rw [isFirst] at ran
    exact (consumed_again ran).trans (behind_one _)
  cases startIdx with
  | zero =>
    rw [first outside found, Nat.zero_add]
    exact (behind_one _).symm
  | succ before =>
    have ran : parser.round self = .ok (parser.contentRound self) := round_content outside
    unfold contentRound at ran
    rw [found] at ran
    obtain ⟨-, isPrefix, -⟩ := find_eq_some.mp found
    have isFirst : find (self.buffer.drop (before + 1)) parser.toolCallStartToken 0 = some 0 :=
      find_eq_some.mpr ⟨Nat.zero_le _, isPrefix, fun _ below => absurd below (Nat.not_lt_zero _)⟩
    have next : parser.consumed (self.withBuffer (self.buffer.drop (before + 1))) =
        parser.consumed { self with
          buffer := (self.buffer.drop (before + 1)).drop parser.toolCallStartToken.length
          inToolCalls := true } := first outside isFirst
    rw [drop_drop] at next
    rw [consumed_again ran]
    show behind (ofContent _ * 1) (parser.consumed (self.withBuffer (self.buffer.drop (before + 1)))) = _
    rw [mul_one, next]

end Content

/-! ## Values of parameters -/

theorem seen_addToolCallDelta (index : Nat) (name arguments : Option Text) :
    seen (self.addToolCallDelta index name arguments) =
      ((self.addToolCallDelta index name arguments).1, ofToolCall ⟨index, name, arguments⟩) :=
  congrArg (Prod.mk _) (mul_one (ofToolCall ⟨index, name, arguments⟩))

theorem addToolCallDelta_append (index : Nat) (first second : Text) :
    self.addToolCallDelta index none (some (first ++ second)) =
      (((self.addToolCallDelta index none (some first)).1.addToolCallDelta index none (some second)).1,
        [.toolCall index none (some (first ++ second))]) := by
  refine congrArg (fun streamed => ({ self with streamedArgsForTool := streamed },
    [Emission.toolCall index none (some (first ++ second))])) ?_
  refine Eq.trans ?_ (modify_modify_eq _ _ _ _).symm
  exact congrArg (List.modify self.streamedArgsForTool index)
    (funext fun streamed => (append_assoc streamed first second).symm)

theorem seen_addToolCallDelta_append (index : Nat) (first second : Text) :
    seen (self.addToolCallDelta index none (some (first ++ second))) =
      (((self.addToolCallDelta index none (some first)).1.addToolCallDelta index none (some second)).1,
        (seen (self.addToolCallDelta index none (some first))).2 *
          (seen ((self.addToolCallDelta index none (some first)).1.addToolCallDelta index none (some second))).2) := by
  rw [seen_addToolCallDelta, seen_addToolCallDelta, seen_addToolCallDelta, ofToolCall_arguments,
    addToolCallDelta_append]

theorem jsonEscapeStringContent_append (first second : Text) :
    jsonEscapeStringContent (first ++ second) = jsonEscapeStringContent first ++ jsonEscapeStringContent second :=
  flatMap_append

theorem seen_deliverPart_append (index : Nat) (first second : Text) (mode : ParamMode) :
    seen (deliverPart self index (first ++ second) mode) =
      ((deliverPart (deliverPart self index first mode).1 index second mode).1,
        (seen (deliverPart self index first mode)).2 *
          (seen (deliverPart (deliverPart self index first mode).1 index second mode)).2) := by
  cases mode with
  | wrapper | buffered =>
    refine Prod.ext ?_ (one_mul 1).symm
    show { self with activeParamParts := self.activeParamParts ++ (first ++ second) } =
      { self with activeParamParts := self.activeParamParts ++ first ++ second }
    rw [append_assoc]
  | string =>
    unfold deliverPart
    rw [jsonEscapeStringContent_append]
    exact seen_addToolCallDelta_append index _ _
  | raw => exact seen_addToolCallDelta_append index first second

theorem seen_deliverPart_nil (index : Nat) (mode : ParamMode) : seen (deliverPart self index [] mode) = (self, 1) := by
  have nothing : seen (self.addToolCallDelta index none (some [])) = (self, 1) := by
    rw [seen_addToolCallDelta, ofToolCall_nothing]
    refine congrArg (fun streamed => ({ self with streamedArgsForTool := streamed }, (1 : Received))) ?_
    refine Eq.trans (congrArg (List.modify self.streamedArgsForTool index) ?_) (modify_id _ _)
    exact funext append_nil
  cases mode with
  | wrapper | buffered =>
    refine Prod.ext ?_ rfl
    show { self with activeParamParts := self.activeParamParts ++ [] } = self
    rw [append_nil]
  | string | raw => exact nothing

theorem seen_deliverEnd_append (index : Nat) (first second : Text) (mode : ParamMode) :
    (parser.deliverEnd self index (first ++ second) mode).map seen =
      behind (seen (deliverPart self index first mode)).2
        ((parser.deliverEnd (deliverPart self index first mode).1 index second mode).map seen) := by
  cases mode with
  | wrapper | buffered =>
    refine Eq.trans ?_ (behind_one _).symm
    show (parser.finishBufferedParam
      { self with activeParamParts := self.activeParamParts ++ (first ++ second) } index).map seen = _
    rw [← append_assoc]
    rfl
  | string =>
    unfold deliverEnd deliverPart
    rw [jsonEscapeStringContent_append, append_assoc]
    exact congrArg Except.ok (seen_addToolCallDelta_append index _ _)
  | raw => exact congrArg Except.ok (seen_addToolCallDelta_append index first second)

theorem deliverPart_withBuffer (index : Nat) (rawContent buffer : Text) (mode : ParamMode) :
    deliverPart (self.withBuffer buffer) index rawContent mode =
      DsmlStream.rebuffer buffer (deliverPart self index rawContent mode) := by
  cases mode with
  | wrapper | buffered | string | raw => rfl

structure InValue (state : DsmlStream) (index : Nat) (mode : ParamMode) : Prop where
  inBlock : state.inToolCalls = true
  isIndex : state.activeToolIndex = some index
  isMode : state.activeParamMode = some mode

section Values

variable {index : Nat} {mode : ParamMode} (inValue : InValue self index mode)
include inValue

theorem InValue.withBuffer (buffer : Text) : InValue (self.withBuffer buffer) index mode :=
  ⟨inValue.inBlock, inValue.isIndex, inValue.isMode⟩

theorem InValue.deliverPart (rawContent : Text) : InValue (deliverPart self index rawContent mode).1 index mode := by
  cases mode with
  | wrapper | buffered | string | raw =>
    exact ⟨inValue.inBlock, inValue.isIndex, inValue.isMode⟩

theorem round_value : parser.round self = parser.valueRound self index mode := by
  rw [round, inValue.inBlock, if_neg (Ne.symm Bool.false_ne_true), inValue.isIndex]
  rw [inValue.isMode]

theorem consumed_value_absent {sent held : Text} (withholds : Withholds self.buffer parameterEndToken sent held) :
    parser.consumed self = .ok (seen (DeepSeekV32ToolParser.deliverPart (self.withBuffer held) index sent mode)) := by
  obtain ⟨absent, isBuffer, isHeld⟩ := withholds
  have ran : parser.round self = parser.valueRound self index mode := round_value inValue
  have isLength : self.buffer.length - tagOverlap self.buffer parameterEndToken = sent.length := by
    rw [← isHeld, isBuffer, length_append]
    omega
  have isDrop : self.buffer.drop sent.length = held := by rw [isBuffer, drop_left]
  have isTake : self.buffer.take sent.length = sent := by rw [isBuffer, take_left]
  unfold valueRound at ran
  rw [absent] at ran
  dsimp only at ran
  rw [isLength, isDrop, isTake] at ran
  split at ran
  next => exact consumed_done ran
  next isEmpty =>
    have isNil : sent = [] := eq_nil_of_length_eq_zero (by omega)
    rw [isNil, nil_append] at isBuffer
    rw [consumed_done ran, isNil, seen_deliverPart_nil, ← isBuffer]
    rfl

theorem consumed_value_found {endPos : Nat} (found : find self.buffer parameterEndToken 0 = some endPos) :
    parser.consumed self = andFeed ((parser.deliverEnd
      (self.withBuffer (self.buffer.drop (endPos + parameterEndToken.length))) index (self.buffer.take endPos)
      mode).map seen) fun next => parser.consumed next.leaveParam := by
  have ran : parser.round self = parser.valueRound self index mode := round_value inValue
  unfold valueRound at ran
  rw [found] at ran
  change _ = (parser.deliverEnd (self.withBuffer (self.buffer.drop (endPos + parameterEndToken.length))) index
    (self.buffer.take endPos) mode).bind _ at ran
  cases ended : parser.deliverEnd (self.withBuffer (self.buffer.drop (endPos + parameterEndToken.length))) index
      (self.buffer.take endPos) mode with
  | error failure =>
    rw [ended] at ran
    rw [consumed_error ran]
    rfl
  | ok last =>
    rw [ended] at ran
    rw [consumed_again ran]
    rfl

end Values

/-! ## More text behind the buffer -/

def Stops (parser : DeepSeekV32ToolParser Schema) (more : Text) (state : DsmlStream) : Prop :=
  parser.consumed (state.grow more) = andFeed (parser.consumed state) fun next => parser.consumed (next.grow more)

section Stops

variable {more : Text}
  (shorter : ∀ state : DsmlStream, state.buffer.length < self.buffer.length → Stops parser more state)

theorem Stops.of_error (ran : parser.round self = .error failure)
    (ranGrown : parser.round (self.grow more) = .error failure) : Stops parser more self := by
  rw [Stops, consumed_error ran, consumed_error ranGrown]
  rfl

theorem Stops.of_waiting (ran : parser.round self = .ok (.done self [])) : Stops parser more self := by
  rw [Stops, consumed_done ran]
  exact (behind_one _).symm

theorem Stops.of_again {next : DsmlStream} {emitted : List Emission}
    (ran : parser.round self = .ok (.again next emitted))
    (ranGrown : parser.round (self.grow more) = .ok (.again (next.grow more) emitted))
    (nextStops : Stops parser more next) : Stops parser more self := by
  rw [Stops, consumed_again ran, consumed_again ranGrown, andFeed_behind, nextStops]

include shorter in
theorem stops_content (outside : self.inToolCalls = false) :
    Stops parser more self := by
  have outsideGrown : (self.grow more).inToolCalls = false := outside
  cases found : find self.buffer parser.toolCallStartToken 0 with
  | some startIdx =>
    obtain ⟨inside, isPrefix, -⟩ := find_eq_some.mp found
    have fits := isPrefix.length_le
    have positive := length_pos_iff.mpr parser.start_ne
    rw [length_drop] at fits
    have foundGrown : find (self.grow more).buffer parser.toolCallStartToken 0 = some startIdx :=
      find_grown found more
    have next := shorter { self with
      buffer := self.buffer.drop (startIdx + parser.toolCallStartToken.length)
      inToolCalls := true } (by
        rw [length_drop]
        omega)
    rw [Stops, consumed_content_found outsideGrown foundGrown, consumed_content_found outside found, andFeed_behind,
      ← next]
    show behind (ofContent ((self.buffer ++ more).take startIdx)) (parser.consumed { self with
      buffer := (self.buffer ++ more).drop (startIdx + parser.toolCallStartToken.length)
      inToolCalls := true }) = _
    rw [take_append_of_le_length inside, drop_append_of_le_length (by omega)]
    rfl
  | none =>
    obtain ⟨sent, held, withholds⟩ := exists_withholds found
    have outsideHeld : (self.withBuffer (held ++ more)).inToolCalls = false := outside
    have isGrown : (self.grow more).buffer = sent ++ (held ++ more) := withholds.append more
    have finds : find (self.grow more).buffer parser.toolCallStartToken 0 = _ := withholds.finds more
    rw [Stops, consumed_content_absent outside withholds]
    change _ = behind (ofContent sent) (parser.consumed (self.withBuffer (held ++ more)))
    cases later : find (held ++ more) parser.toolCallStartToken 0 with
    | none =>
      obtain ⟨others, heldAfter, withheld⟩ := exists_withholds later
      rw [consumed_content_absent outsideGrown (withholds.grow parser.start_ne withheld),
        consumed_content_absent outsideHeld withheld]
      rfl
    | some startIdx =>
      rw [later] at finds
      rw [consumed_content_found outsideGrown finds, consumed_content_found outsideHeld later, behind_behind,
        isGrown, Nat.add_assoc, take_length_add_append, drop_length_add_append]
      rfl

include shorter in
theorem stops_value {index : Nat} {mode : ParamMode} (inValue : InValue self index mode) :
    Stops parser more self := by
  have inValueGrown : InValue (self.grow more) index mode := inValue.withBuffer _
  cases found : find self.buffer parameterEndToken 0 with
  | some endPos =>
    obtain ⟨inside, isPrefix, -⟩ := find_eq_some.mp found
    have fits := isPrefix.length_le
    have positive : 0 < parameterEndToken.length := by decide
    rw [length_drop] at fits
    have foundGrown : find (self.grow more).buffer parameterEndToken 0 = some endPos := find_grown found more
    have grownEnd : parser.deliverEnd
        ((self.grow more).withBuffer ((self.grow more).buffer.drop (endPos + parameterEndToken.length))) index
        ((self.grow more).buffer.take endPos) mode =
      (parser.deliverEnd (self.withBuffer (self.buffer.drop (endPos + parameterEndToken.length))) index
        (self.buffer.take endPos) mode).map
        (DsmlStream.rebuffer (self.buffer.drop (endPos + parameterEndToken.length) ++ more)) := by
      rw [← deliverEnd_withBuffer]
      show parser.deliverEnd (self.withBuffer ((self.buffer ++ more).drop _)) index
        ((self.buffer ++ more).take endPos) mode = _
      rw [take_append_of_le_length inside, drop_append_of_le_length (by omega)]
      rfl
    rw [Stops, consumed_value_found inValueGrown foundGrown, consumed_value_found inValue found, grownEnd]
    cases ended : parser.deliverEnd (self.withBuffer (self.buffer.drop (endPos + parameterEndToken.length))) index
        (self.buffer.take endPos) mode with
    | error failure => rfl
    | ok last =>
      have kept := buffer_of_rebuffer ((parser.deliverEnd_withBuffer self index _ mode _).symm.trans ended)
      have next := shorter last.1.leaveParam (by
        show last.1.buffer.length < _
        rw [kept, length_drop]
        omega)
      show behind _ (parser.consumed (last.1.withBuffer _).leaveParam) =
        andFeed (behind _ (parser.consumed last.1.leaveParam)) _
      rw [andFeed_behind, ← next, ← kept]
      rfl
  | none =>
    obtain ⟨sent, held, withholds⟩ := exists_withholds found
    let delivered := deliverPart self index sent mode
    have inValueHeld : InValue (delivered.1.withBuffer (held ++ more)) index mode :=
      (inValue.deliverPart sent).withBuffer _
    have isGrown : (self.grow more).buffer = sent ++ (held ++ more) := withholds.append more
    have finds : find (self.grow more).buffer parameterEndToken 0 = _ := withholds.finds more
    have pieces (buffer : Text) : deliverPart ((self.grow more).withBuffer buffer) index sent mode =
        DsmlStream.rebuffer buffer delivered := @deliverPart_withBuffer self index sent buffer mode
    rw [Stops, consumed_value_absent inValue withholds, deliverPart_withBuffer]
    change _ = behind (seen delivered).2 (parser.consumed (delivered.1.withBuffer (held ++ more)))
    cases later : find (held ++ more) parameterEndToken 0 with
    | none =>
      obtain ⟨others, heldAfter, withheld⟩ := exists_withholds later
      rw [consumed_value_absent inValueGrown (withholds.grow (cons_ne_nil _ _) withheld),
        consumed_value_absent inValueHeld withheld, seen_deliverPart_append, pieces]
      rfl
    | some endPos =>
      rw [later] at finds
      rw [consumed_value_found inValueGrown finds, consumed_value_found inValueHeld later, ← andFeed_behind,
        isGrown, Nat.add_assoc, take_length_add_append, drop_length_add_append, seen_deliverEnd_append,
        pieces]
      rfl

/-! ### Between the tags -/

structure Between (state : DsmlStream) : Prop where
  inBlock : state.inToolCalls = true
  noValue : state.activeToolIndex = none ∨ state.activeParamMode = none

theorem round_invoke (between : Between self) (idle : self.activeToolIndex = none) :
    parser.round self = .ok (parser.invokeRound self) := by
  rw [round, between.inBlock, if_neg (Ne.symm Bool.false_ne_true), idle]

theorem round_parameter (between : Between self) {index : Nat} (active : self.activeToolIndex = some index) :
    parser.round self = parser.parameterRound self index := by
  have noMode := between.noValue.resolve_left (by rw [active]; exact Option.some_ne_none index)
  rw [round, between.inBlock, if_neg (Ne.symm Bool.false_ne_true), active]
  rw [noMode]

theorem consumed_lstrip (between : Between self) :
    parser.consumed self = parser.consumed (self.withBuffer (lstrip self.buffer)) := by
  by_cases blanks : self.buffer.length - (lstrip self.buffer).length ≠ 0
  · have ran : parser.round self = .ok (.again (self.withBuffer (lstrip self.buffer)) []) := by
      rw [← drop_stripped self.buffer]
      cases active : self.activeToolIndex with
      | none =>
        rw [round_invoke between active]
        exact congrArg Except.ok (if_pos blanks)
      | some index =>
        rw [round_parameter between active]
        exact if_pos blanks
    rw [consumed_again ran]
    exact behind_one _
  · have stripped : lstrip self.buffer = self.buffer := by
      rw [← drop_stripped self.buffer, not_not.mp blanks, drop_zero]
    rw [stripped]
    rfl

theorem Stops.of_lstrip (between : Between self)
    (strippedStops : Stops parser more (self.withBuffer (lstrip self.buffer))) : Stops parser more self := by
  have betweenGrown : Between (self.grow more) := ⟨between.inBlock, between.noValue⟩
  have betweenStripped : Between ((self.withBuffer (lstrip self.buffer)).grow more) :=
    ⟨between.inBlock, between.noValue⟩
  rw [Stops, consumed_lstrip between, ← strippedStops, consumed_lstrip betweenGrown, consumed_lstrip betweenStripped]
  show parser.consumed (self.withBuffer (lstrip (self.buffer ++ more))) =
    parser.consumed (self.withBuffer (lstrip (lstrip self.buffer ++ more)))
  rw [lstrip_append]

theorem stable_invokeStart : invokeStart.Stable := by
  refine (stable_literal _).andThen fun _ => ?_
  refine (stable_afterBlanks (by decide) 1).andThen fun _ => (stable_upTo _).andThen fun name => ?_
  exact (stable_afterBlanks (by decide) 0).andThen fun _ => stable_pure name

theorem stable_parameterStart : parameterStart.Stable := by
  refine (stable_literal _).andThen fun _ => ?_
  refine (stable_afterBlanks (by decide) 1).andThen fun _ => (stable_upTo _).andThen fun name => ?_
  refine (stable_afterBlanks (by decide) 1).andThen fun _ => ?_
  refine (stable_oneOf (by decide)).andThen fun stringAttr => (stable_literal _).andThen fun _ => ?_
  exact (stable_afterBlanks (by decide) 0).andThen fun _ => stable_pure (name, stringAttr)

theorem not_closing {opening closing text : Text} (isOpening : '<' :: '｜' :: opening <+: text)
    (slash : ['<', '/'] <+: closing) : ¬closing <+: text := by
  intro isClosing
  obtain ⟨others, rfl⟩ := isOpening
  have second := prefix_iff_getElem?.mp (slash.trans isClosing) 1 (by decide)
  exact absurd second (by simp)

theorem opens_invoke {text rest : Text} {name : Text} (read : invokeStart text = some (name, rest)) :
    "<｜DSML｜invoke".toList <+: text := by
  obtain ⟨⟨_, left⟩, isTag, -⟩ := Option.bind_eq_some_iff.mp read
  exact ⟨left, (literal_eq_some.mp isTag).symm⟩

theorem opens_parameter {text rest : Text} {found : Text × Text} (read : parameterStart text = some (found, rest)) :
    "<｜DSML｜parameter".toList <+: text := by
  obtain ⟨⟨_, left⟩, isTag, -⟩ := Option.bind_eq_some_iff.mp read
  exact ⟨left, (literal_eq_some.mp isTag).symm⟩

section Stripped

variable (parser) (between : Between self) (stripped : lstrip self.buffer = self.buffer)
include between stripped

theorem round_invoke_end (idle : self.activeToolIndex = none) (isEnd : parser.toolCallEndToken <+: self.buffer) :
    parser.round self = .ok (.again { self with
      buffer := self.buffer.drop parser.toolCallEndToken.length
      inToolCalls := false } []) := by
  rw [round_invoke between idle, invokeRound]
  rw [stripped, Nat.sub_self, if_neg (not_not.mpr rfl), if_pos isEnd]

theorem round_invoke_read (idle : self.activeToolIndex = none) (notEnd : ¬parser.toolCallEndToken <+: self.buffer) :
    parser.round self = .ok (match invokeStart self.buffer with
      | none => .done self []
      | some (name, rest) => .again ((self.withBuffer rest).beginStreamingToolCall name).1
          ((self.withBuffer rest).beginStreamingToolCall name).2) := by
  rw [round_invoke between idle, invokeRound]
  rw [stripped, Nat.sub_self, if_neg (not_not.mpr rfl), if_neg notEnd]
  rfl

theorem round_parameter_end {index : Nat} (active : self.activeToolIndex = some index)
    (isEnd : invokeEndToken <+: self.buffer) :
    parser.round self =
      (parser.closeStreamingToolCall (self.withBuffer (self.buffer.drop invokeEndToken.length))).map
        fun closed => .again closed.1 closed.2 := by
  rw [round_parameter between active, parameterRound]
  rw [stripped, Nat.sub_self, if_neg (not_not.mpr rfl), if_pos isEnd]
  show (parser.closeStreamingToolCall (self.withBuffer (self.buffer.drop invokeEndToken.length))).bind _ = _
  cases parser.closeStreamingToolCall (self.withBuffer (self.buffer.drop invokeEndToken.length)) with
  | error failure => rfl
  | ok closed => rfl

theorem round_parameter_read {index : Nat} (active : self.activeToolIndex = some index)
    (notEnd : ¬invokeEndToken <+: self.buffer) :
    parser.round self = .ok (match parameterStart self.buffer with
      | none => .done self []
      | some ((name, stringAttr), rest) => .again (parser.openParam (self.withBuffer rest) index name stringAttr).1
          (parser.openParam (self.withBuffer rest) index name stringAttr).2) := by
  rw [round_parameter between active, parameterRound]
  rw [stripped, Nat.sub_self, if_neg (not_not.mpr rfl), if_neg notEnd]
  cases parameterStart self.buffer with
  | none => rfl
  | some entry => rfl

end Stripped

theorem Between.grow (between : Between self) (more : Text) : Between (self.grow more) :=
  ⟨between.inBlock, between.noValue⟩

include shorter in
theorem stops_invoke (between : Between self) (idle : self.activeToolIndex = none)
    (stripped : lstrip self.buffer = self.buffer) :
    Stops parser more self := by
  have strippedGrown (nonempty : self.buffer ≠ []) : lstrip (self.grow more).buffer = (self.grow more).buffer :=
    lstrip_append_of_stripped nonempty stripped more
  by_cases isEnd : parser.toolCallEndToken <+: self.buffer
  · have nonempty : self.buffer ≠ [] := fun isNil =>
      parser.toolCallEndToken_ne (prefix_nil.mp (isNil ▸ isEnd))
    have isEndGrown : parser.toolCallEndToken <+: (self.grow more).buffer := isEnd.trans (prefix_append _ _)
    have ran := round_invoke_end parser between stripped idle isEnd
    have ranGrown := round_invoke_end parser (between.grow more) (strippedGrown nonempty) idle isEndGrown
    have isDrop : (self.grow more).buffer.drop parser.toolCallEndToken.length =
        self.buffer.drop parser.toolCallEndToken.length ++ more :=
      drop_append_of_le_length isEnd.length_le
    rw [isDrop] at ranGrown
    exact .of_again ran ranGrown (shorter _ (dropped_shorter parser.toolCallEndToken_ne isEnd))
  · have ran := round_invoke_read parser between stripped idle isEnd
    cases read : invokeStart self.buffer with
    | none =>
      rw [read] at ran
      exact .of_waiting ran
    | some entry =>
      obtain ⟨name, rest⟩ := entry
      have opens := opens_invoke read
      have nonempty : self.buffer ≠ [] := fun isNil => absurd (isNil ▸ opens) (by decide)
      have notEnd : ¬parser.toolCallEndToken <+: (self.grow more).buffer :=
        not_closing (opens.trans (prefix_append _ _)) parser.end_slash
      have ranGrown := round_invoke_read parser (between.grow more) (strippedGrown nonempty) idle notEnd
      have readGrown : invokeStart (self.grow more).buffer = some (name, rest ++ more) :=
        stable_invokeStart read more
      rw [read] at ran
      rw [readGrown] at ranGrown
      exact .of_again ran ranGrown (shorter _ (reads_invokeStart read))

include shorter in
theorem stops_parameter (between : Between self) {index : Nat} (active : self.activeToolIndex = some index)
    (stripped : lstrip self.buffer = self.buffer) :
    Stops parser more self := by
  have strippedGrown (nonempty : self.buffer ≠ []) : lstrip (self.grow more).buffer = (self.grow more).buffer :=
    lstrip_append_of_stripped nonempty stripped more
  by_cases isEnd : invokeEndToken <+: self.buffer
  · have nonempty : self.buffer ≠ [] := fun isNil => absurd (isNil ▸ isEnd) (by decide)
    have isEndGrown : invokeEndToken <+: (self.grow more).buffer := isEnd.trans (prefix_append _ _)
    have ran := round_parameter_end parser between stripped active isEnd
    have ranGrown := round_parameter_end parser (between.grow more) (strippedGrown nonempty) active
      isEndGrown
    have isDrop : (self.grow more).buffer.drop invokeEndToken.length =
        self.buffer.drop invokeEndToken.length ++ more := drop_append_of_le_length isEnd.length_le
    have closes := closeStreamingToolCall_withBuffer parser
      (self.withBuffer (self.buffer.drop invokeEndToken.length)) (self.buffer.drop invokeEndToken.length ++ more)
    rw [isDrop, show (self.grow more).withBuffer (self.buffer.drop invokeEndToken.length ++ more) =
      (self.withBuffer (self.buffer.drop invokeEndToken.length)).withBuffer
        (self.buffer.drop invokeEndToken.length ++ more) from rfl, closes] at ranGrown
    cases closed : parser.closeStreamingToolCall (self.withBuffer (self.buffer.drop invokeEndToken.length)) with
    | error failure =>
      rw [closed] at ran ranGrown
      exact .of_error ran ranGrown
    | ok last =>
      rw [closed] at ran ranGrown
      have kept := buffer_of_rebuffer ((parser.closeStreamingToolCall_withBuffer self _).symm.trans closed)
      have isGrown : last.1.withBuffer (self.buffer.drop invokeEndToken.length ++ more) = last.1.grow more := by
        rw [← kept]
        rfl
      refine .of_again ran (ranGrown.trans ?_) (shorter _ ?_)
      · exact congrArg (fun state => Except.ok (Iteration.again state last.2)) isGrown
      · rw [kept]
        exact dropped_shorter (by decide) isEnd
  · have ran := round_parameter_read parser between stripped active isEnd
    cases read : parameterStart self.buffer with
    | none =>
      rw [read] at ran
      exact .of_waiting ran
    | some entry =>
      obtain ⟨⟨name, stringAttr⟩, rest⟩ := entry
      have opens := opens_parameter read
      have nonempty : self.buffer ≠ [] := fun isNil => absurd (isNil ▸ opens) (by decide)
      have notEnd : ¬invokeEndToken <+: (self.grow more).buffer :=
        not_closing (opens.trans (prefix_append _ _)) (by decide)
      have ranGrown := round_parameter_read parser (between.grow more) (strippedGrown nonempty) active
        notEnd
      have readGrown : parameterStart (self.grow more).buffer = some ((name, stringAttr), rest ++ more) :=
        stable_parameterStart read more
      have opened := openParam_withBuffer parser self index name stringAttr rest
      have openedGrown := openParam_withBuffer parser self index name stringAttr (rest ++ more)
      rw [read] at ran
      rw [readGrown] at ranGrown
      dsimp only at ran ranGrown
      rw [opened] at ran
      rw [show (self.grow more).withBuffer (rest ++ more) = self.withBuffer (rest ++ more) from rfl, openedGrown]
        at ranGrown
      exact .of_again ran ranGrown (shorter _ (reads_parameterStart read))

theorem stops (self : DsmlStream) (more : Text) : Stops parser more self := by
  induction isLength : self.buffer.length using Nat.strong_induction_on generalizing self with
  | h length ih =>
    have shorter (state : DsmlStream) (isShorter : state.buffer.length < self.buffer.length) :
        Stops parser more state := ih _ (isLength ▸ isShorter) state rfl
    by_cases outside : self.inToolCalls = false
    · exact stops_content shorter outside
    have inBlock : self.inToolCalls = true := Bool.not_eq_false _ ▸ outside
    by_cases noValue : self.activeToolIndex = none ∨ self.activeParamMode = none
    · have between : Between self := ⟨inBlock, noValue⟩
      rcases (lstrip_length_le self.buffer).lt_or_eq with blanks | noBlanks
      · exact .of_lstrip between (shorter _ blanks)
      · have stripped := (dropWhile_suffix isSpace).eq_of_length noBlanks
        cases active : self.activeToolIndex with
        | none => exact stops_invoke shorter between active stripped
        | some index => exact stops_parameter shorter between active stripped
    · rw [not_or] at noValue
      obtain ⟨index, isIndex⟩ := Option.ne_none_iff_exists'.mp noValue.1
      obtain ⟨mode, isMode⟩ := Option.ne_none_iff_exists'.mp noValue.2
      exact stops_value shorter ⟨inBlock, isIndex, isMode⟩

end Stops

/-! ## What the loop raises -/

/-- An exception of a value that stands in the text, when it is coerced, or of `json.loads`. -/
def Raises (parser : DeepSeekV32ToolParser Schema) (text : Text) (failure : PyError) : Prop :=
  (∃ value types, value <:+: text ∧ parser.tools.coerceToSchemaType value types = .error failure) ∨
    ∃ json, parser.tools.loads json = .error failure

/-- What is collected of a value stands in the text in front of the buffer, and a value has a parameter. -/
structure Collects (text : Text) (state : DsmlStream) : Prop where
  held : state.activeParamParts ++ state.buffer <:+ text
  noParts : state.inToolCalls = false ∨ state.activeToolIndex = none ∨ state.activeParamMode = none →
    state.activeParamParts = []
  opened : state.activeParamMode ≠ none →
    ∃ name stringAttr, state.activeParamName = some name ∧ state.activeParamStringAttr = some stringAttr

variable {text : Text}

theorem Collects.buffer (collects : Collects text self) : self.buffer <:+ text :=
  (suffix_append _ _).trans collects.held

theorem Collects.of_left {state : DsmlStream} (isEnd : state.buffer <:+ text) (noParts : state.activeParamParts = [])
    (noMode : state.activeParamMode = none) : Collects text state where
  held := by rwa [noParts]
  noParts := fun _ => noParts
  opened := fun inValue => absurd noMode inValue

theorem repairParamDict_raises {allowed : List Text} {paramDict : List (Text × JsonValue)} {wrappers : List Text}
    (raised : parser.repairParamDict allowed paramDict wrappers = .error failure) :
    ∃ json, parser.tools.loads json = .error failure := by
  induction wrappers with
  | nil => cases raised
  | cons wrapper rest ih =>
    unfold repairParamDict at raised
    split at raised
    next key inner =>
      split at raised
      next => exact ih raised
      next =>
        rcases bind_eq_error.mp raised with loading | ⟨loaded, _, later⟩
        · cases inner with
          | text value => exact ⟨value, loading⟩
          | object entries => cases loading
          | other literal => cases loading
        · split at later
          next => cases later
          next =>
            split at later
            next => cases later
            next => exact ih later
          next => exact ih later
    next => cases raised

theorem finishBufferedParam_raises {state : DsmlStream} {index : Nat}
    (raised : parser.finishBufferedParam state index = .error failure) {name stringAttr : Text}
    (isName : state.activeParamName = some name) (isAttr : state.activeParamStringAttr = some stringAttr)
    (stands : state.activeParamParts <:+: text) : Raises parser text failure := by
  unfold finishBufferedParam at raised
  rw [isName, isAttr] at raised
  rcases bind_eq_error.mp raised with converting | ⟨converted, _, done⟩
  · rcases bind_eq_error.mp converting with coercing | ⟨value, _, repairing⟩
    · split at coercing
      next => cases coercing
      next => exact .inl ⟨_, _, stands, coercing⟩
    · exact .inr (repairParamDict_raises repairing)
  · cases done

theorem closeStreamingToolCall_raises
    (raised : parser.closeStreamingToolCall self = .error failure) : Raises parser text failure := by
  unfold closeStreamingToolCall at raised
  split at raised
  next => cases raised
  next =>
    rcases bind_eq_error.mp raised with loading | ⟨_, _, done⟩
    · exact .inr ⟨_, loading⟩
    · cases done

theorem round_raises (collects : Collects text self)
    (raised : parser.round self = .error failure) : Raises parser text failure := by
  unfold round at raised
  split at raised
  next => cases raised
  next =>
    split at raised
    next => cases raised
    next index _ =>
      split at raised
      next mode isMode =>
        unfold valueRound at raised
        split at raised
        next endPos _ =>
          rcases bind_eq_error.mp raised with ending | ⟨_, _, done⟩
          · obtain ⟨name, stringAttr, isName, isAttr⟩ := collects.opened (isMode ▸ Option.some_ne_none mode)
            have stands : self.activeParamParts ++ self.buffer.take endPos <:+: text := by
              refine List.IsInfix.trans (List.IsPrefix.isInfix ?_) collects.held.isInfix
              exact (prefix_append_right_inj _).mpr (List.take_prefix _ _)
            cases mode with
            | wrapper | buffered =>
              exact finishBufferedParam_raises ending isName isAttr stands
            | string | raw => cases ending
          · cases done
        next =>
          dsimp only at raised
          split at raised <;> cases raised
      next =>
        unfold parameterRound at raised
        dsimp only at raised
        split at raised
        next => cases raised
        next =>
          split at raised
          next =>
            rcases bind_eq_error.mp raised with closing | ⟨_, _, done⟩
            · exact closeStreamingToolCall_raises closing
            · cases done
          next => split at raised <;> cases raised

theorem keeps_invokeStart : invokeStart.Keeps := by
  refine (keeps_literal _).andThen fun _ => (keeps_afterBlanks _ _ _).andThen fun _ => ?_
  refine (keeps_upTo _).andThen fun name => ?_
  exact (keeps_afterBlanks _ _ _).andThen fun _ => keeps_pure name

theorem keeps_parameterStart : parameterStart.Keeps := by
  refine (keeps_literal _).andThen fun _ => (keeps_afterBlanks _ _ _).andThen fun _ => ?_
  refine (keeps_upTo _).andThen fun name => (keeps_afterBlanks _ _ _).andThen fun _ => ?_
  refine (keeps_oneOf _).andThen fun stringAttr => (keeps_literal _).andThen fun _ => ?_
  exact (keeps_afterBlanks _ _ _).andThen fun _ => keeps_pure (name, stringAttr)

theorem openParam_fields (state : DsmlStream) (index : Nat) (name stringAttr : Text) :
    (parser.openParam state index name stringAttr).1.buffer = state.buffer ∧
      (parser.openParam state index name stringAttr).1.activeParamParts = state.activeParamParts ∧
      (parser.openParam state index name stringAttr).1.activeParamName = some name ∧
      (parser.openParam state index name stringAttr).1.activeParamStringAttr = some stringAttr := by
  unfold openParam
  cases parser.paramMode state name stringAttr with
  | wrapper | buffered | string | raw => exact ⟨rfl, rfl, rfl, rfl⟩

theorem closeStreamingToolCall_left {index : Nat} (active : self.activeToolIndex = some index)
    {last : DsmlStream × List Emission} (closed : parser.closeStreamingToolCall self = .ok last) :
    last.1.activeParamParts = [] ∧ last.1.activeParamMode = none := by
  unfold closeStreamingToolCall at closed
  rw [active] at closed
  obtain ⟨_, _, isLast⟩ := bind_eq_ok.mp closed
  cases isLast
  exact ⟨rfl, rfl⟩

section

variable (collects : Collects text self)

include collects

theorem Collects.keep (noParts : self.activeParamParts = []) {state : DsmlStream}
    (isEnd : state.buffer <:+ self.buffer) (sameParts : state.activeParamParts = self.activeParamParts)
    (sameMode : state.activeParamMode = self.activeParamMode) (sameName : state.activeParamName = self.activeParamName)
    (sameAttr : state.activeParamStringAttr = self.activeParamStringAttr) : Collects text state where
  held := by
    rw [sameParts, noParts]
    exact isEnd.trans collects.buffer
  noParts := fun _ => sameParts.trans noParts
  opened := by
    rw [sameMode, sameName, sameAttr]
    exact collects.opened

variable {emitted : List Emission} {next : DsmlStream}

theorem Collects.content (outside : self.inToolCalls = false)
    (ran : parser.contentRound self = .again next emitted) : Collects text next := by
  have noParts := collects.noParts (.inl outside)
  unfold contentRound at ran
  split at ran
  next =>
    dsimp only at ran
    split at ran <;> cases ran
  next =>
    split at ran
    next =>
      cases ran
      exact collects.keep noParts (drop_suffix _ _) rfl rfl rfl rfl
    next =>
      cases ran
      exact collects.keep noParts (drop_suffix _ _) rfl rfl rfl rfl

theorem Collects.invoke (idle : self.activeToolIndex = none)
    (ran : parser.invokeRound self = .again next emitted) : Collects text next := by
  have noParts := collects.noParts (.inr (.inl idle))
  unfold invokeRound at ran
  dsimp only at ran
  split at ran
  next =>
    cases ran
    exact collects.keep noParts (drop_suffix _ _) rfl rfl rfl rfl
  next =>
    split at ran
    next =>
      cases ran
      exact collects.keep noParts (drop_suffix _ _) rfl rfl rfl rfl
    next =>
      split at ran
      next => cases ran
      next name rest read =>
        cases ran
        exact collects.keep noParts (keeps_invokeStart read) rfl rfl rfl rfl

theorem Collects.value {index : Nat} {mode : ParamMode} (ran : parser.valueRound self index mode = .ok (.again next emitted)) :
    Collects text next := by
  unfold valueRound at ran
  split at ran
  next endPos _ =>
    obtain ⟨⟨last, delivered⟩, ended, isNext⟩ := bind_eq_ok.mp ran
    cases isNext
    have kept := buffer_of_rebuffer ((parser.deliverEnd_withBuffer self index _ mode _).symm.trans ended)
    refine .of_left ?_ rfl rfl
    show last.buffer <:+ text
    rw [kept]
    exact (drop_suffix _ _).trans collects.buffer
  next =>
    dsimp only at ran
    split at ran <;> cases ran

theorem Collects.parameter {index : Nat} (active : self.activeToolIndex = some index)
    (noMode : self.activeParamMode = none)
    (ran : parser.parameterRound self index = .ok (.again next emitted)) : Collects text next := by
  have noParts := collects.noParts (.inr (.inr noMode))
  unfold parameterRound at ran
  dsimp only at ran
  split at ran
  next =>
    cases ran
    exact collects.keep noParts (drop_suffix _ _) rfl rfl rfl rfl
  next =>
    split at ran
    next =>
      obtain ⟨⟨last, delivered⟩, closed, isNext⟩ := bind_eq_ok.mp ran
      cases isNext
      have kept := buffer_of_rebuffer ((parser.closeStreamingToolCall_withBuffer self _).symm.trans closed)
      have activeRest : (self.withBuffer (self.buffer.drop invokeEndToken.length)).activeToolIndex = some index :=
        active
      have left := closeStreamingToolCall_left activeRest closed
      exact .of_left (kept.symm ▸ (drop_suffix _ _).trans collects.buffer) left.1 left.2
    next =>
      split at ran
      next => cases ran
      next name stringAttr rest read =>
        cases ran
        obtain ⟨sameBuffer, sameParts, isName, isAttr⟩ :=
          @openParam_fields _ parser (self.withBuffer rest) index name stringAttr
        have isEmpty := sameParts.trans noParts
        refine ⟨?_, fun _ => isEmpty, fun _ => ⟨name, stringAttr, isName, isAttr⟩⟩
        exact isEmpty.symm ▸ sameBuffer.symm ▸ (keeps_parameterStart read).trans collects.buffer

theorem Collects.round (ran : parser.round self = .ok (.again next emitted)) : Collects text next := by
  unfold DeepSeekV32ToolParser.round at ran
  split at ran
  next outside => exact collects.content outside (Except.ok.inj ran)
  next =>
    split at ran
    next idle => exact collects.invoke idle (Except.ok.inj ran)
    next index active =>
      split at ran
      next => exact collects.value ran
      next noMode => exact collects.parameter active noMode ran

/-- The loop raises what a coerced value of the text or `json.loads` raises, and nothing else. -/
theorem consumed_raises (raised : parser.consumed self = .error failure) : Raises parser text failure := by
  induction isLength : self.buffer.length using Nat.strong_induction_on generalizing self with
  | h length ih =>
    cases ran : parser.round self with
    | error other =>
      cases (consumed_error ran).symm.trans raised
      exact round_raises collects ran
    | ok iteration =>
      cases iteration with
      | done final emitted => cases (consumed_done ran).symm.trans raised
      | again next emitted =>
        rw [consumed_again ran] at raised
        cases later : parser.consumed next with
        | ok last =>
          rw [later] at raised
          cases raised
        | error other =>
          rw [later] at raised
          cases raised
          exact ih _ (isLength ▸ round_shortens ran) (collects.round ran) later rfl

end

/-! ## The calls for the pieces of a text -/

def delivered (last : DsmlStream × List (DeltaMessage DeltaToolCall)) : DsmlStream × Received :=
  (last.1, ofMessages last.2)

theorem grow_grow (state : DsmlStream) (first second : Text) :
    (state.grow first).grow second = state.grow (first ++ second) := by
  unfold DsmlStream.grow
  rw [append_assoc]

theorem getD_textOrNone (content : Text) : (textOrNone content).getD [] = content := by
  cases content <;> rfl

theorem extractToolCallsStreaming_delivers (previousText deltaText : Text) (deltaTokenIds : List TokenId) :
    (parser.extractToolCallsStreaming self previousText deltaText deltaTokenIds).map
        (fun last => delivered (last.1, last.2.toList)) =
      parser.consumed ((if previousText.isEmpty then {} else self).grow deltaText) := by
  unfold extractToolCallsStreaming consumed
  dsimp only
  cases parser.processStreamingBuffer ((if previousText.isEmpty then {} else self).grow deltaText) with
  | error failure => rfl
  | ok last =>
    obtain ⟨next, emitted⟩ := last
    show Except.map _ (
      if !(Emission.contentParts emitted).isEmpty || !(Emission.toolCallDeltas emitted).isEmpty then _
      else if deltaText.isEmpty && !deltaTokenIds.isEmpty && !next.prevToolCallArr.isEmpty then _ else _) =
      .ok (next, (emitted.map Emission.received).prod)
    rw [← Emission.received_prod]
    split
    next =>
      show Except.ok (next, ofContent ((textOrNone (Emission.contentParts emitted).flatten).getD []) *
        ((Emission.toolCallDeltas emitted).map ofToolCall).prod * 1) = _
      rw [getD_textOrNone, mul_one]
    next nothing =>
      rw [Bool.or_eq_true, not_or, Bool.not_eq_true', Bool.not_eq_false, Bool.not_eq_true', Bool.not_eq_false,
        List.isEmpty_iff, List.isEmpty_iff] at nothing
      rw [nothing.1, nothing.2]
      -- the message that finalizes a stream carries nothing
      split <;> rfl

def consumes (parser : DeepSeekV32ToolParser Schema) (state : DsmlStream) (deltaText : Text) :
    Except PyError (DsmlStream × Received) := parser.consumed (state.grow deltaText)

theorem consumes_append (state : DsmlStream) (first second : Text) :
    parser.consumes state (first ++ second) =
      andFeed (parser.consumes state first) fun next => parser.consumes next second := by
  rw [consumes, ← grow_grow]
  exact stops (state.grow first) second

theorem extractChunks_cons (state : DsmlStream) (previousText deltaText : Text) (deltaTokenIds : List TokenId)
    (rest : List (Text × List TokenId)) :
    (parser.extractChunks state previousText ((deltaText, deltaTokenIds) :: rest)).map delivered =
      andFeed (parser.consumes (if previousText.isEmpty then {} else state) deltaText) fun next =>
        (parser.extractChunks next (previousText ++ deltaText) rest).map delivered := by
  rw [consumes, ← extractToolCallsStreaming_delivers previousText deltaText deltaTokenIds, extractChunks]
  cases parser.extractToolCallsStreaming state previousText deltaText deltaTokenIds with
  | error failure => rfl
  | ok called =>
    obtain ⟨next, message⟩ := called
    show ((parser.extractChunks next (previousText ++ deltaText) rest).bind fun last =>
        Except.ok (last.1, message.toList ++ last.2)).map delivered =
      behind (ofMessages message.toList) ((parser.extractChunks next (previousText ++ deltaText) rest).map delivered)
    cases parser.extractChunks next (previousText ++ deltaText) rest with
    | error failure => rfl
    | ok last =>
      refine congrArg (fun received => Except.ok (last.1, received)) ?_
      show ((message.toList ++ last.2).map ofMessage).prod = _
      rw [map_append, prod_append]
      rfl

theorem extractChunks_delivers {previousText : Text} (later : previousText ≠ []) (state : DsmlStream)
    (pieces : List (Text × List TokenId)) :
    (parser.extractChunks state previousText pieces).map delivered =
      feed parser.consumes state (pieces.map Prod.fst) := by
  induction pieces generalizing state previousText with
  | nil => rfl
  | cons piece rest ih =>
    have notFirst : ¬previousText.isEmpty := by rwa [List.isEmpty_iff]
    rw [extractChunks_cons, if_neg notFirst, map_cons, feed]
    congr 1
    funext next
    exact ih (append_ne_nil_of_left_ne_nil later _) next

theorem extractChunks_whole (state : DsmlStream) {pieces : List (Text × List TokenId)}
    (nonempty : ∀ piece ∈ pieces, piece.1 ≠ []) (some : pieces ≠ []) :
    (parser.extractChunks state [] pieces).map delivered =
      parser.consumes {} (pieces.map Prod.fst).flatten := by
  rw [← feed_eq_flatten consumes_append _ (fun isNil => some (map_eq_nil_iff.mp isNil))]
  cases pieces with
  | nil => exact absurd rfl some
  | cons piece rest =>
    rw [extractChunks_cons, map_cons, feed]
    congr 1
    funext next
    exact extractChunks_delivers (nonempty piece mem_cons_self) next rest

theorem eq_nil_of_flatten_eq_nil {pieces : List (Text × List TokenId)}
    (nonempty : ∀ piece ∈ pieces, piece.1 ≠ []) (noText : (pieces.map Prod.fst).flatten = []) : pieces = [] := by
  cases pieces with
  | nil => rfl
  | cons piece rest =>
    rw [map_cons, flatten_cons, append_eq_nil_iff] at noText
    exact absurd noText.1 (nonempty piece mem_cons_self)

/-- A parser without tools; its texts are neither coerced nor loaded. -/
private def plainTools : DsmlTools Unit where
  hasTools := false
  findToolProperties := fun _ => []
  isDict := fun _ => false
  extractTypesFromSchema := fun _ => ["string".toList]
  coerceToSchemaType := fun value _ => .ok (.text value)
  dumps := fun
    | .text value => jsonString value
    | .object _ => "{}".toList
    | .other literal => literal
  loads := fun json => .ok (some (.other json))

private def cutInMarkers : List (Text × List TokenId) :=
  [("Hi <｜DSML｜tool_".toList, [1]), ("calls> <｜DSML｜invoke name=\"f\">\n<｜DSML｜par".toList, [2, 3])]

private def cutBehindMarkers : List (Text × List TokenId) :=
  [("Hi <｜DSML｜tool_calls>".toList, [1, 2]), (" <｜DSML｜invoke name=\"f\">".toList, []),
    ("\n<｜DSML｜par".toList, [3])]

end DeepSeekV32ToolParser

end DeepSpark
