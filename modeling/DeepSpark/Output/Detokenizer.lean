import DeepSpark.Lib.Occurrences
import DeepSpark.Request.Data

/-!
`BaseIncrementalDetokenizer` and `check_stop_strings` of `v1/engine/detokenizer.py`.

Owns the state of the detokenizer, `update` and `get_next_output_text`, and what one call
of `update` does to the text. A text is a list of characters. `decodeNext` is the decoder
of a subclass: from its own state and the token ids with the new one it gives the new
text.
-/

namespace DeepSpark

open Lib

abbrev Text := List Char

/-- `check_stop_strings`. The second part of its answer is none for -1. -/
def checkStopStrings (outputText : Text) (newCharCount : Nat) (includeInOutput : Bool) :
    List Text → Option (Text × Option Nat)
  | [] => none
  | stopStr :: rest =>
    if newCharCount = 0 then none
    else
      -- a negative start counts from the end, and no further than to 0
      match find outputText stopStr (outputText.length + 1 - (newCharCount + stopStr.length)) with
      | none => checkStopStrings outputText newCharCount includeInOutput rest
      | some stopIndex =>
        if includeInOutput then
          let stopIndex := stopIndex + stopStr.length
          if outputText.length ≤ stopIndex then some (stopStr, none)
          else some (stopStr, some stopIndex)
        else some (stopStr, some stopIndex)

/-- `BaseIncrementalDetokenizer`, with the state `decoder` of a subclass. `tokenIds`
starts with `promptLen` tokens of the prompt. -/
structure BaseIncrementalDetokenizer (D : Type) where
  stop : List Text
  minTokens : Nat
  includeStopStrInOutput : Bool
  decoder : D
  promptLen : Nat := 0
  tokenIds : List TokenId := []
  outputText : Text := []
  lastOutputTextOffset : Nat := 0

namespace BaseIncrementalDetokenizer

variable {D : Type} (decodeNext : D → List TokenId → Text × D) (self : BaseIncrementalDetokenizer D)

def numOutputTokens : Nat := self.tokenIds.length - self.promptLen

def outputTokenIds : List TokenId := self.tokenIds.drop self.promptLen

def stopBufferLength : Nat :=
  if self.stop ≠ [] ∧ !self.includeStopStrInOutput then
    (self.stop.map List.length).foldl max 0 - 1
  else 0

/-- One round of the loop of `update`. -/
def decodeToken (newTokenId : TokenId) : BaseIncrementalDetokenizer D :=
  let tokenIds := self.tokenIds ++ [newTokenId]
  let (text, decoder) := decodeNext self.decoder tokenIds
  { self with tokenIds, decoder, outputText := self.outputText ++ text }

/-- The loop of `update`, with the offset the stop check starts from. -/
def decodeTokens (self : BaseIncrementalDetokenizer D) (stopCheckOffset : Nat) :
    List TokenId → BaseIncrementalDetokenizer D × Nat
  | [] => (self, stopCheckOffset)
  | newTokenId :: rest =>
    let self := self.decodeToken decodeNext newTokenId
    decodeTokens self
      (if self.minTokens ≠ 0 ∧ self.numOutputTokens ≤ self.minTokens then self.outputText.length
      else stopCheckOffset) rest

def checkStop (stopCheckOffset : Nat) : Option Text × BaseIncrementalDetokenizer D :=
  if self.stop ≠ [] ∧ self.minTokens < self.numOutputTokens then
    match checkStopStrings self.outputText (self.outputText.length - stopCheckOffset)
        self.includeStopStrInOutput self.stop with
    | none => (none, self)
    | some (stopString, none) => (some stopString, self)
    | some (stopString, some truncateTo) =>
      (some stopString, { self with outputText := self.outputText.take truncateTo })
  else (none, self)

def update (newTokenIds : List TokenId) (stopTerminated : Bool) :
    Option Text × BaseIncrementalDetokenizer D :=
  if newTokenIds = [] then (none, self)
  else
    let skipsLast := stopTerminated && !self.includeStopStrInOutput
    let (decoded, stopCheckOffset) := decodeTokens decodeNext self self.outputText.length
      (if skipsLast then newTokenIds.dropLast else newTokenIds)
    let decoded := if skipsLast then
        { decoded with tokenIds := decoded.tokenIds ++ newTokenIds.getLast?.toList }
      else decoded
    decoded.checkStop stopCheckOffset

def getNextOutputText (finished delta : Bool) : Text × BaseIncrementalDetokenizer D :=
  let bufferLength := if finished then 0 else self.stopBufferLength
  if !delta then
    if bufferLength = 0 then (self.outputText, self)
    else (self.outputText.take (self.outputText.length - bufferLength), self)
  else
    -- a negative length is below every offset, as 0 is
    let length := self.outputText.length - bufferLength
    if self.lastOutputTextOffset < length then
      ((self.outputText.take length).drop self.lastOutputTextOffset,
        { self with lastOutputTextOffset := length })
    else ([], self)

/-! ## One call of `update` -/

def cutText (includeInOutput : Bool) (text : Text) (found : Text × Nat) : Text :=
  text.take (if includeInOutput then found.2 else found.2 - found.1.length)

theorem checkStopStrings_eq {stop : List Text} (nonempty : [] ∉ stop) {text : Text} {after : Nat}
    (inside : after ≤ text.length) (includeInOutput : Bool) :
    checkStopStrings text (text.length - after) includeInOutput stop =
      (firstListed stop text after).map fun (stopStr, stopEnd) =>
        (stopStr, if includeInOutput then if text.length ≤ stopEnd then none else some stopEnd
          else some (stopEnd - stopStr.length)) := by
  induction stop with
  | nil => rfl
  | cons stopStr rest ih =>
    rw [List.mem_cons, not_or] at nonempty
    have later := ih nonempty.2
    rw [checkStopStrings]
    split
    next noChars =>
      have nothing : firstListed (stopStr :: rest) text after = none := by
        rw [firstListed_eq_none]
        intro pattern _ stopEnd isAfter ends
        have within := ends.1
        omega
      rw [nothing, Option.map_none]
    next =>
      have start : text.length + 1 - (text.length - after + stopStr.length) =
          after + 1 - stopStr.length := by omega
      rw [start, find_eq_firstEnd (Ne.symm nonempty.1)]
      unfold firstListed at later ⊢
      rw [List.findSome?_cons]
      cases isEnd : firstEnd text after stopStr with
      | none => exact later
      | some stopEnd =>
        have long := (firstEnd_eq_some.mp isEnd).2.1.length_le
        have isStop : stopEnd - stopStr.length + stopStr.length = stopEnd := Nat.sub_add_cancel long
        simp only [Option.map_some, isStop]
        split
        · split <;> rfl
        · rfl

variable {self}

/-- The stop check looks for the first listed stop string that ends after the offset. -/
theorem checkStop_eq (nonempty : [] ∉ self.stop) {stopCheckOffset : Nat}
    (inside : stopCheckOffset ≤ self.outputText.length) : self.checkStop stopCheckOffset =
      if self.minTokens < self.numOutputTokens then
        match firstListed self.stop self.outputText stopCheckOffset with
        | none => (none, self)
        | some found => (some found.1,
            { self with outputText := cutText self.includeStopStrInOutput self.outputText found })
      else (none, self) := by
  unfold checkStop
  rw [checkStopStrings_eq nonempty inside]
  by_cases isEmpty : self.stop = []
  · rw [isEmpty]
    simp [firstListed]
  · by_cases enough : self.minTokens < self.numOutputTokens
    · rw [if_pos ⟨isEmpty, enough⟩, if_pos enough]
      cases firstListed self.stop self.outputText stopCheckOffset with
      | none => rfl
      | some found =>
        obtain ⟨stopStr, stopEnd⟩ := found
        cases isIncluded : self.includeStopStrInOutput with
        | false => rfl
        | true =>
          simp only [Option.map_some, cutText, if_true]
          by_cases isWhole : self.outputText.length ≤ stopEnd
          · rw [if_pos isWhole, List.take_of_length_le isWhole]
            cases self
            cases isIncluded
            rfl
          · rw [if_neg isWhole]
    · rw [if_neg fun both => enough both.2, if_neg enough]

/-! ## The decoded text -/

variable (self)

def decoded (tokens : List TokenId) : BaseIncrementalDetokenizer D :=
  tokens.foldl (decodeToken decodeNext) self

variable {self}

theorem decoded_append (tokens more : List TokenId) :
    self.decoded decodeNext (tokens ++ more) = (self.decoded decodeNext tokens).decoded decodeNext more :=
  List.foldl_append

/-- Decoding changes the decoder, adds the tokens and extends the text. -/
structure Extends (first last : BaseIncrementalDetokenizer D) (tokens : List TokenId) : Prop where
  stop : last.stop = first.stop
  minTokens : last.minTokens = first.minTokens
  includeStopStrInOutput : last.includeStopStrInOutput = first.includeStopStrInOutput
  promptLen : last.promptLen = first.promptLen
  tokenIds : last.tokenIds = first.tokenIds ++ tokens
  outputText : first.outputText <+: last.outputText
  lastOutputTextOffset : last.lastOutputTextOffset = first.lastOutputTextOffset

theorem decoded_extends (tokens : List TokenId) : Extends self (self.decoded decodeNext tokens) tokens := by
  induction tokens generalizing self with
  | nil => exact ⟨rfl, rfl, rfl, rfl, (List.append_nil _).symm, List.prefix_refl _, rfl⟩
  | cons token rest ih =>
    have later := @ih (self.decodeToken decodeNext token)
    refine ⟨later.stop, later.minTokens, later.includeStopStrInOutput, later.promptLen, ?_,
      (List.prefix_append _ _).trans later.outputText, later.lastOutputTextOffset⟩
    have tokenIds := later.tokenIds
    rw [decodeToken, List.append_assoc] at tokenIds
    exact tokenIds

theorem decodeTokens_eq (tokens : List TokenId) (stopCheckOffset : Nat)
    (counted : self.promptLen ≤ self.tokenIds.length) :
    decodeTokens decodeNext self stopCheckOffset tokens = (self.decoded decodeNext tokens,
      if tokens ≠ [] ∧ self.numOutputTokens < self.minTokens then
        (self.decoded decodeNext (tokens.take (self.minTokens - self.numOutputTokens))).outputText.length
      else stopCheckOffset) := by
  induction tokens generalizing self stopCheckOffset with
  | nil => rfl
  | cons token rest ih =>
    have one : (self.decodeToken decodeNext token).numOutputTokens = self.numOutputTokens + 1 := by
      show (self.tokenIds ++ [token]).length - self.promptLen = _
      rw [List.length_append, List.length_singleton, numOutputTokens]
      omega
    have stillCounted : (self.decodeToken decodeNext token).promptLen ≤
        (self.decodeToken decodeNext token).tokenIds.length := by
      show self.promptLen ≤ (self.tokenIds ++ [token]).length
      rw [List.length_append]
      omega
    rw [decodeTokens, ih _ stillCounted, one]
    refine Prod.ext rfl ?_
    have sameBound : (self.decodeToken decodeNext token).minTokens = self.minTokens := rfl
    simp only [sameBound]
    by_cases isEarly : self.numOutputTokens < self.minTokens
    · have isTaken : (token :: rest).take (self.minTokens - self.numOutputTokens) =
          token :: rest.take (self.minTokens - (self.numOutputTokens + 1)) := by
        rw [List.take_cons (by omega), Nat.sub_sub]
      have isMoved : self.minTokens ≠ 0 ∧ self.numOutputTokens + 1 ≤ self.minTokens := by omega
      rw [if_pos (show token :: rest ≠ [] ∧ _ from ⟨List.cons_ne_nil _ _, isEarly⟩), isTaken,
        if_pos isMoved]
      split
      next => rfl
      next goesOn =>
        have noMore : rest.take (self.minTokens - (self.numOutputTokens + 1)) = [] := by
          by_cases isEnd : rest = []
          · rw [isEnd, List.take_nil]
          · have isLast : self.minTokens - (self.numOutputTokens + 1) = 0 := by
              have notEarly : ¬self.numOutputTokens + 1 < self.minTokens :=
                fun earlier => goesOn ⟨isEnd, earlier⟩
              omega
            rw [isLast, List.take_zero]
        rw [noMore]
        rfl
    · have isLate : ¬self.numOutputTokens + 1 ≤ self.minTokens := by omega
      have later : ¬self.numOutputTokens + 1 < self.minTokens := by omega
      rw [if_neg fun both => later both.2, if_neg fun both => isLate both.2,
        if_neg fun both => isEarly both.2]

/-- From the end of the text, the stop check starts after the tokens that are too few. -/
theorem decodeTokens_outputText (tokens : List TokenId) (counted : self.promptLen ≤ self.tokenIds.length) :
    decodeTokens decodeNext self self.outputText.length tokens = (self.decoded decodeNext tokens,
      (self.decoded decodeNext (tokens.take (self.minTokens - self.numOutputTokens))).outputText.length) := by
  rw [decodeTokens_eq decodeNext tokens _ counted]
  split
  next => rfl
  next notEarly =>
    have none : tokens.take (self.minTokens - self.numOutputTokens) = [] := by
      by_cases isEmpty : tokens = []
      · rw [isEmpty, List.take_nil]
      · have late : self.minTokens - self.numOutputTokens = 0 := by
          have notBefore : ¬self.numOutputTokens < self.minTokens := fun early => notEarly ⟨isEmpty, early⟩
          omega
        rw [late, List.take_zero]
    rw [none]
    rfl

theorem decoded_take_le (tokens : List TokenId) (count : Nat) :
    (self.decoded decodeNext (tokens.take count)).outputText <+: (self.decoded decodeNext tokens).outputText := by
  have whole := @decoded_append D decodeNext self (tokens.take count) (tokens.drop count)
  rw [List.take_append_drop] at whole
  rw [whole]
  exact (decoded_extends decodeNext _).outputText

end BaseIncrementalDetokenizer

end DeepSpark
