import DeepSpark.Output.Detokenizer

/-!
Stop strings and the grouping of the tokens.

Owns a request's calls of `update` up to the first stop string, the stop string and the
text that should come of them, and when they do.
-/

namespace DeepSpark

open Lib List

namespace BaseIncrementalDetokenizer

variable {D : Type} (decodeNext : D → List TokenId → Text × D) {self : BaseIncrementalDetokenizer D}

def spoken (includeStopStrInOutput stopTerminated : Bool) (tokens : List TokenId) : List TokenId :=
  if stopTerminated && !includeStopStrInOutput then tokens.dropLast else tokens

/-- The calls of `update`, one a group, up to the first stop string. With `stopTerminated`
the last token is a stop token. -/
def feed (stopTerminated : Bool) (self : BaseIncrementalDetokenizer D) :
    List (List TokenId) → Option Text × Text
  | [] => (none, self.outputText)
  | group :: rest =>
    match self.update decodeNext group (stopTerminated && rest.flatten.isEmpty) with
    | (some stopString, self) => (some stopString, self.outputText)
    | (none, self) => feed stopTerminated self rest

def stopAnswer (includeInOutput : Bool) (text : Text) : Option (Text × Nat) → Option Text × Text
  | none => (none, text)
  | some found => (some found.1, cutText includeInOutput text found)

/-- `BaseIncrementalDetokenizer.__init__`, with the prompt's tokens in `token_ids`. -/
def new (stop : List Text) (minTokens : Nat) (includeStopStrInOutput : Bool) (decoder : D)
    (promptTokenIds : List TokenId) : BaseIncrementalDetokenizer D :=
  { stop, minTokens, includeStopStrInOutput, decoder
    promptLen := promptTokenIds.length
    tokenIds := promptTokenIds }

theorem cutText_of_isPrefixOf {includeInOutput : Bool} {text more : Text} {found : Text × Nat}
    (isPrefix : text <+: more) (inside : found.2 ≤ text.length) :
    cutText includeInOutput text found = cutText includeInOutput more found := by
  obtain ⟨rest, rfl⟩ := isPrefix
  unfold cutText
  rw [take_append_of_le_length]
  split <;> omega

/-- `update` decodes its tokens, and answers with the first listed stop string that ends
behind the text of the tokens before, and of the first `minTokens` ones. -/
theorem update_eq (nonempty : [] ∉ self.stop) (counted : self.promptLen ≤ self.tokenIds.length)
    (tokens : List TokenId) (stopTerminated : Bool) {decodedTokens : List TokenId}
    (isDecoded : decodedTokens = spoken self.includeStopStrInOutput stopTerminated tokens)
    {last : BaseIncrementalDetokenizer D}
    (isLast : last = { self.decoded decodeNext decodedTokens with tokenIds := self.tokenIds ++ tokens }) :
    self.update decodeNext tokens stopTerminated =
      match firstListed self.stop last.outputText
        (self.decoded decodeNext
          (decodedTokens.take (self.minTokens - self.numOutputTokens))).outputText.length with
      | none => (none, last)
      | some found => (some found.1,
          { last with outputText := cutText self.includeStopStrInOutput last.outputText found }) := by
  have extends' := @decoded_extends D decodeNext self decodedTokens
  have lastText : last.outputText = (self.decoded decodeNext decodedTokens).outputText := by rw [isLast]
  rw [update]
  split
  next isEmpty =>
    have noTokens : decodedTokens = [] := by
      rw [isDecoded, isEmpty, spoken]
      split <;> rfl
    have same : last = self := by
      rw [isLast, noTokens, isEmpty, append_nil]
      rfl
    have nothing : firstListed self.stop last.outputText (self.decoded decodeNext
        (decodedTokens.take (self.minTokens - self.numOutputTokens))).outputText.length = none := by
      rw [firstListed_eq_none, noTokens, take_nil, same]
      intro pattern _ stop later ends
      have inside := ends.1
      change self.outputText.length < stop at later
      omega
    rw [nothing, same]
  next isSome =>
    have sameTokens : (if stopTerminated && !self.includeStopStrInOutput then tokens.dropLast else tokens) =
        decodedTokens := isDecoded.symm
    dsimp only
    rw [sameTokens, decodeTokens_outputText decodeNext _ counted]
    have sameLast : (if (stopTerminated && !self.includeStopStrInOutput) = true then
        { self.decoded decodeNext decodedTokens with
          tokenIds := (self.decoded decodeNext decodedTokens).tokenIds ++ tokens.getLast?.toList }
        else self.decoded decodeNext decodedTokens) = last := by
      rw [isLast, extends'.tokenIds]
      split
      next skips =>
        have isWhole : tokens.dropLast ++ tokens.getLast?.toList = tokens := by
          rw [getLast?_eq_some_getLast isSome]
          exact dropLast_append_getLast isSome
        have isShort : decodedTokens = tokens.dropLast := by rw [isDecoded, spoken, if_pos skips]
        rw [append_assoc, isShort, isWhole]
      next keeps =>
        have isWhole : decodedTokens = tokens := by rw [isDecoded, spoken, if_neg keeps]
        rw [isWhole] at extends' ⊢
        rw [← extends'.tokenIds]
    rw [sameLast]
    have lastStop : last.stop = self.stop := by rw [isLast, ← extends'.stop]
    have lastMin : last.minTokens = self.minTokens := by rw [isLast, ← extends'.minTokens]
    have lastIncludes : last.includeStopStrInOutput = self.includeStopStrInOutput := by
      rw [isLast, ← extends'.includeStopStrInOutput]
    have inside : (self.decoded decodeNext
        (decodedTokens.take (self.minTokens - self.numOutputTokens))).outputText.length ≤
          last.outputText.length := by
      rw [lastText]
      exact (decoded_take_le decodeNext _ _).length_le
    rw [checkStop_eq (lastStop ▸ nonempty) inside, lastStop, lastMin, lastIncludes]
    split
    next => rfl
    next tooFew =>
      -- all tokens are among the first `minTokens` ones
      have counts : last.numOutputTokens = self.numOutputTokens + tokens.length := by
        rw [isLast]
        show (self.tokenIds ++ tokens).length - (self.decoded decodeNext decodedTokens).promptLen = _
        rw [extends'.promptLen, length_append, numOutputTokens]
        omega
      have short : decodedTokens.length ≤ tokens.length := by
        rw [isDecoded, spoken]
        split
        · rw [length_dropLast]
          omega
        · exact Nat.le_refl _
      have nothing : firstListed self.stop last.outputText (self.decoded decodeNext
          (decodedTokens.take (self.minTokens - self.numOutputTokens))).outputText.length = none := by
        rw [firstListed_eq_none, take_of_length_le (by omega), ← lastText]
        intro pattern _ stop later ends
        have within := ends.1
        omega
      rw [nothing]

/-! ## A request's calls -/

section Calls

variable (self)

def textAfter (tokens : List TokenId) (count : Nat) : Text :=
  (self.decoded decodeNext (tokens.take count)).outputText

variable {self}

theorem textAfter_growing (tokens : List TokenId) (first last : Nat) (order : first ≤ last) :
    self.textAfter decodeNext tokens first <+: self.textAfter decodeNext tokens last := by
  have shorter := @decoded_take_le D decodeNext self (tokens.take last) first
  rw [take_take, Nat.min_eq_left order] at shorter
  exact shorter

theorem feed_of_flatten_eq_nil (stopTerminated : Bool) {groups : List (List TokenId)}
    (isEmpty : groups.flatten = []) :
    feed decodeNext stopTerminated self groups = (none, self.outputText) := by
  induction groups with
  | nil => rfl
  | cons group rest ih =>
    rw [flatten_cons, append_eq_nil_iff] at isEmpty
    have unchanged : self.update decodeNext group (stopTerminated && rest.flatten.isEmpty) = (none, self) := by
      rw [update, if_pos isEmpty.1]
    rw [feed, unchanged]
    exact ih isEmpty.2

theorem take_spoken {includeInOutput stopTerminated : Bool} {before group after : List TokenId}
    (isSome : group ++ after ≠ []) (count : Nat) (inside : count ≤ group.length) :
    (spoken includeInOutput stopTerminated (before ++ (group ++ after))).take (before.length + count) =
      before ++ (spoken includeInOutput (stopTerminated && after.isEmpty) group).take count := by
  unfold spoken
  cases after with
  | nil =>
    rw [append_nil] at isSome ⊢
    rw [isEmpty_nil, Bool.and_true]
    split
    · rw [dropLast_append_of_ne_nil isSome, take_length_add_append]
    · rw [take_length_add_append]
  | cons token after =>
    rw [isEmpty_cons, Bool.and_false, Bool.false_and, if_neg Bool.false_ne_true]
    split
    · rw [dropLast_append_of_ne_nil isSome, dropLast_append_of_ne_nil (cons_ne_nil _ _),
        take_length_add_append, take_append_of_le_length inside]
    · rw [take_length_add_append, take_append_of_le_length inside]

/-- One call searches the text that is new, but for the text of the first `minTokens`
tokens. -/
theorem update_textAfter (nonempty : [] ∉ self.stop) (isNew : self.tokenIds.length = self.promptLen)
    (stopTerminated : Bool) {before group after : List TokenId} (isSome : group ++ after ≠ [])
    {text : Nat → Text}
    (isText : text = self.textAfter decodeNext
      (spoken self.includeStopStrInOutput stopTerminated (before ++ (group ++ after)))) :
    ∃ last : BaseIncrementalDetokenizer D, last.outputText = text (before.length + group.length) ∧
      (after ≠ [] → last = self.decoded decodeNext (before ++ group)) ∧
      (self.decoded decodeNext before).update decodeNext group (stopTerminated && after.isEmpty) =
        match firstListed self.stop (text (before.length + group.length))
          (text (max before.length self.minTokens)).length with
        | none => (none, last)
        | some found => (some found.1, { last with
            outputText := cutText self.includeStopStrInOutput (text (before.length + group.length)) found }) := by
  have extends' := @decoded_extends D decodeNext self before
  have growing : ∀ first last, first ≤ last → text first <+: text last := by
    rw [isText]
    exact textAfter_growing decodeNext _
  have counted : (self.decoded decodeNext before).tokenIds.length = self.promptLen + before.length := by
    rw [extends'.tokenIds, length_append, isNew]
  have isDone : (self.decoded decodeNext before).numOutputTokens = before.length := by
    rw [numOutputTokens, counted, extends'.promptLen, Nat.add_sub_cancel_left]
  have isCalled := @update_eq D decodeNext (self.decoded decodeNext before) (extends'.stop ▸ nonempty)
    (by rw [extends'.promptLen, counted]; exact Nat.le_add_right _ _) group (stopTerminated && after.isEmpty) _ rfl
    _ rfl
  rw [extends'.stop, extends'.minTokens, extends'.includeStopStrInOutput, isDone] at isCalled
  have textAt (count : Nat) (inside : count ≤ group.length) : text (before.length + count) =
      ((self.decoded decodeNext before).decoded decodeNext ((spoken self.includeStopStrInOutput
        (stopTerminated && after.isEmpty) group).take count)).outputText := by
    rw [isText, textAfter, take_spoken isSome count inside, decoded_append]
  have short : (spoken self.includeStopStrInOutput (stopTerminated && after.isEmpty) group).length ≤
      group.length := by
    unfold spoken
    split
    · rw [length_dropLast]
      omega
    · exact Nat.le_refl _
  have lastText := textAt group.length (Nat.le_refl _)
  rw [take_of_length_le short] at lastText
  refine ⟨{ (self.decoded decodeNext before).decoded decodeNext
      (spoken self.includeStopStrInOutput (stopTerminated && after.isEmpty) group) with
    tokenIds := (self.decoded decodeNext before).tokenIds ++ group }, lastText.symm, fun goesOn => ?_, ?_⟩
  · have notLast : after.isEmpty = false := isEmpty_eq_false_iff.mpr goesOn
    have isWhole : spoken self.includeStopStrInOutput (stopTerminated && after.isEmpty) group = group := by
      rw [notLast, Bool.and_false]
      rfl
    rw [isWhole, decoded_append, ← (@decoded_extends D decodeNext (self.decoded decodeNext before)
      group).tokenIds]
  · rw [isCalled]
    rw [lastText]
    by_cases reaches : self.minTokens - before.length ≤ group.length
    · have sameOffset := textAt _ reaches
      have isMax : before.length + (self.minTokens - before.length) = max before.length self.minTokens := by
        omega
      rw [← sameOffset, isMax]
    · -- with fewer tokens than `minTokens` there is nothing to search
      have isAll := take_of_length_le (Nat.le_trans short (Nat.le_of_lt (Nat.lt_of_not_le reaches)))
      have grown := (growing (before.length + group.length) (max before.length self.minTokens) (by omega)).length_le
      have nothing (offset : Nat) (isPast : (text (before.length + group.length)).length ≤ offset) :
          firstListed self.stop (text (before.length + group.length)) offset = none := by
        rw [firstListed_eq_none]
        intro pattern _ stop later ends
        have within := ends.1
        omega
      rw [isAll, ← lastText, nothing _ grown, nothing _ (Nat.le_refl _)]

theorem feed_eq (nonempty : [] ∉ self.stop) (isNew : self.tokenIds.length = self.promptLen)
    (stopTerminated : Bool) {before : List TokenId} {groups : List (List TokenId)} {text : Nat → Text}
    (isText : text = self.textAfter decodeNext
      (spoken self.includeStopStrInOutput stopTerminated (before ++ groups.flatten)))
    {current : BaseIncrementalDetokenizer D} (isCurrent : groups.flatten ≠ [] → current = self.decoded decodeNext before)
    (currentText : current.outputText = text before.length) :
    feed decodeNext stopTerminated current groups =
      stopAnswer self.includeStopStrInOutput (text (before.length + groups.flatten.length))
        (searchSteps self.stop text self.minTokens before.length (groups.map List.length)) := by
  have growing : ∀ first last, first ≤ last → text first <+: text last := by
    rw [isText]
    exact textAfter_growing decodeNext _
  induction groups generalizing before current with
  | nil =>
    rw [feed, currentText]
    rfl
  | cons group rest ih =>
    by_cases isEmpty : (group :: rest).flatten = []
    · have noSizes : ((group :: rest).map List.length).sum = 0 := by
        rw [← length_flatten, isEmpty, length_nil]
      have nothing : searchSteps self.stop text self.minTokens before.length
          ((group :: rest).map List.length) = none := by
        refine searchSteps_eq_none growing
          (show before.length = before.length + ((group :: rest).map List.length).sum by omega) ?_
        rw [firstEnding_eq_none]
        intro pattern _ stop later ends
        have within := ends.1
        have grown := (growing before.length (max before.length self.minTokens) (by omega)).length_le
        omega
      rw [feed_of_flatten_eq_nil decodeNext _ isEmpty, nothing, isEmpty, length_nil, Nat.add_zero,
        currentText]
      rfl
    · rw [flatten_cons] at isEmpty isText
      obtain ⟨last, lastText, isNext, isUpdate⟩ :=
        update_textAfter decodeNext nonempty isNew stopTerminated isEmpty isText
      rw [feed, isCurrent isEmpty, isUpdate, map_cons, searchSteps, flatten_cons, length_append]
      cases isFound : firstListed self.stop (text (before.length + group.length))
          (text (max before.length self.minTokens)).length with
      | none =>
        have isLater := @ih (before ++ group)
          (by rw [isText, append_assoc]) last isNext (by rw [lastText, length_append])
        rw [length_append, Nat.add_assoc] at isLater
        exact isLater
      | some found =>
        have isCut := @cutText_of_isPrefixOf self.includeStopStrInOutput _ _ _
          (growing (before.length + group.length) (before.length + (group.length + rest.flatten.length))
            (by omega)) (firstListed_spec isFound).2.2.1
        simp only [Option.some_or, stopAnswer, ← isCut]

end Calls

/-! ## Text that may be sent -/

section HeldBack

theorem length_le_stopBufferLength {stopString : Text} (isStop : stopString ∈ self.stop)
    (isExcluded : self.includeStopStrInOutput = false) : stopString.length ≤ self.stopBufferLength + 1 := by
  have bounded (lengths : List Nat) (start : Nat) : start ≤ lengths.foldl max start ∧
      ∀ length ∈ lengths, length ≤ lengths.foldl max start := by
    induction lengths generalizing start with
    | nil => exact ⟨Nat.le_refl _, fun _ isMember => absurd isMember not_mem_nil⟩
    | cons first rest ih =>
      obtain ⟨above, all⟩ := ih (max start first)
      rw [foldl_cons]
      refine ⟨by omega, fun length isMember => ?_⟩
      rcases mem_cons.mp isMember with rfl | isLater
      · omega
      · exact all length isLater
  have isBuffered : self.stop ≠ [] ∧ !self.includeStopStrInOutput := by
    rw [isExcluded]
    exact ⟨ne_nil_of_mem isStop, rfl⟩
  rw [stopBufferLength, if_pos isBuffered]
  have isBelow := (bounded (self.stop.map List.length) 0).2 _ (mem_map_of_mem isStop)
  omega

/-- What a call of `update` keeps: the tokens and settings, and the text up to where it may
have been sent. A stop string comes of a call with tokens only. -/
structure Updates (tokens : List TokenId) (first last : BaseIncrementalDetokenizer D)
    (stopString : Option Text) : Prop where
  stop : last.stop = first.stop
  includeStopStrInOutput : last.includeStopStrInOutput = first.includeStopStrInOutput
  promptLen : last.promptLen = first.promptLen
  tokenIds : last.tokenIds = first.tokenIds ++ tokens
  lastOutputTextOffset : last.lastOutputTextOffset = first.lastOutputTextOffset
  goesOn : stopString = none → first.outputText <+: last.outputText
  stops : ∀ found, stopString = some found → found ≠ [] ∧ tokens ≠ []
  kept : ∀ sent, sent ≤ first.outputText.length - first.stopBufferLength →
    sent ≤ last.outputText.length ∧ last.outputText.take sent = first.outputText.take sent

theorem update_updates (nonempty : [] ∉ self.stop) (counted : self.promptLen ≤ self.tokenIds.length)
    (tokens : List TokenId) (stopTerminated : Bool) :
    Updates tokens self (self.update decodeNext tokens stopTerminated).2
      (self.update decodeNext tokens stopTerminated).1 := by
  have extends' := @decoded_extends D decodeNext self
    (spoken self.includeStopStrInOutput stopTerminated tokens)
  have isCalled := update_eq decodeNext nonempty counted tokens stopTerminated rfl rfl
  cases isFound : firstListed self.stop
      (self.decoded decodeNext (spoken self.includeStopStrInOutput stopTerminated tokens)).outputText
      (self.decoded decodeNext ((spoken self.includeStopStrInOutput stopTerminated tokens).take
        (self.minTokens - self.numOutputTokens))).outputText.length with
  | none =>
    rw [isFound] at isCalled
    rw [isCalled]
    refine ⟨extends'.stop, extends'.includeStopStrInOutput, extends'.promptLen, rfl,
      extends'.lastOutputTextOffset, fun _ => extends'.outputText, (fun _ isSome => nomatch isSome), ?_⟩
    intro sent isHeld
    obtain ⟨more, isWhole⟩ := extends'.outputText
    rw [← isWhole, length_append, take_append_of_le_length (by omega)]
    exact ⟨by omega, rfl⟩
  | some found =>
    obtain ⟨isStop, later, ends⟩ := firstListed_spec isFound
    have inside := ends.1
    have behind : self.outputText.length < found.2 :=
      Nat.lt_of_le_of_lt (decoded_extends decodeNext _).outputText.length_le later
    have hasTokens : tokens ≠ [] := by
      rintro rfl
      have isShort : spoken self.includeStopStrInOutput stopTerminated ([] : List TokenId) = [] := by
        unfold spoken
        split <;> rfl
      rw [isShort] at inside
      change found.2 ≤ self.outputText.length at inside
      omega
    rw [isFound] at isCalled
    rw [isCalled]
    refine ⟨extends'.stop, extends'.includeStopStrInOutput, extends'.promptLen, rfl,
      extends'.lastOutputTextOffset, (fun isNone => nomatch isNone), ?_, ?_⟩
    · intro stopString isFoundStop
      cases isFoundStop
      exact ⟨fun isEmpty => nonempty (isEmpty ▸ isStop), hasTokens⟩
    · intro sent isHeld
      have beforeCut : sent ≤ (if self.includeStopStrInOutput then found.2 else found.2 - found.1.length) := by
        split
        next => omega
        next isExcluded =>
          have isShort := length_le_stopBufferLength isStop (Bool.eq_false_iff.mpr isExcluded)
          omega
      obtain ⟨more, isWhole⟩ := extends'.outputText
      dsimp only [cutText]
      rw [take_take, length_take, Nat.min_eq_left beforeCut, ← isWhole, length_append,
        take_append_of_le_length (by omega)]
      rw [← isWhole, length_append] at inside
      exact ⟨by omega, rfl⟩

/-- `get_next_output_text` sends the text from the offset on, but for the part held back. -/
theorem getNextOutputText_delta (finished : Bool) {text : Text} {last : BaseIncrementalDetokenizer D}
    (isSent : self.getNextOutputText finished true = (text, last)) :
    last = { self with lastOutputTextOffset := last.lastOutputTextOffset } ∧
      last.lastOutputTextOffset = max self.lastOutputTextOffset
        (self.outputText.length - if finished then 0 else self.stopBufferLength) ∧
      self.outputText.take self.lastOutputTextOffset ++ text =
        self.outputText.take last.lastOutputTextOffset := by
  rw [getNextOutputText, Bool.not_true, if_neg Bool.false_ne_true] at isSent
  by_cases isMore : self.lastOutputTextOffset <
      self.outputText.length - if finished then 0 else self.stopBufferLength
  · rw [if_pos isMore] at isSent
    cases isSent
    refine ⟨rfl, (Nat.max_eq_right (Nat.le_of_lt isMore)).symm, ?_⟩
    have split := take_append_drop self.lastOutputTextOffset
      (self.outputText.take (self.outputText.length - if finished then 0 else self.stopBufferLength))
    rw [take_take, Nat.min_eq_left (Nat.le_of_lt isMore)] at split
    exact split
  · rw [if_neg isMore] at isSent
    cases isSent
    rw [Nat.max_eq_left (Nat.le_of_not_lt isMore), append_nil]
    exact ⟨rfl, rfl, rfl⟩

end HeldBack

/-! ## The result and the grouping -/

section Groups

variable (self)

/-- The stop string that ends first behind the first `minTokens` tokens, and the text cut
at it. -/
def cutAtFirst (stopTerminated : Bool) (tokens : List TokenId) : Option Text × Text :=
  let text := self.textAfter decodeNext (spoken self.includeStopStrInOutput stopTerminated tokens)
  stopAnswer self.includeStopStrInOutput (text tokens.length)
    (firstEnding self.stop (text tokens.length) (text self.minTokens).length)

def FirstIsListedFirst (stopTerminated : Bool) (groups : List (List TokenId)) : Prop :=
  let text := self.textAfter decodeNext (spoken self.includeStopStrInOutput stopTerminated groups.flatten)
  ∀ stopString stopEnd,
    firstEnding self.stop (text groups.flatten.length) (text self.minTokens).length =
        some (stopString, stopEnd) →
      ListedFirst self.stop (text groups.flatten.length) stopString stopEnd
        (stepWindows text self.minTokens 0 (groups.map List.length))

variable {self}

theorem feed_eq_cutAtFirst (nonempty : [] ∉ self.stop) (isNew : self.tokenIds.length = self.promptLen)
    (stopTerminated : Bool) (groups : List (List TokenId)) :
    self.feed decodeNext stopTerminated groups = self.cutAtFirst decodeNext stopTerminated groups.flatten ↔
      self.FirstIsListedFirst decodeNext stopTerminated groups := by
  have isText : self.textAfter decodeNext (spoken self.includeStopStrInOutput stopTerminated groups.flatten) =
      self.textAfter decodeNext (spoken self.includeStopStrInOutput stopTerminated ([] ++ groups.flatten)) := by
    rw [nil_append]
  have fed := @feed_eq D decodeNext self nonempty isNew stopTerminated [] groups _ isText self (fun _ => rfl) rfl
  rw [fed, cutAtFirst, FirstIsListedFirst]
  rw [length_nil, Nat.zero_add]
  have growing := @textAfter_growing D decodeNext self
    (spoken self.includeStopStrInOutput stopTerminated groups.flatten)
  have isTotal : groups.flatten.length = 0 + (groups.map List.length).sum := by
    rw [Nat.zero_add, length_flatten]
  have fromStart : max 0 self.minTokens = self.minTokens := Nat.zero_max _
  cases isFirst : firstEnding self.stop
      (self.textAfter decodeNext (spoken self.includeStopStrInOutput stopTerminated groups.flatten)
        groups.flatten.length)
      (self.textAfter decodeNext (spoken self.includeStopStrInOutput stopTerminated groups.flatten)
        self.minTokens).length with
  | none =>
    rw [searchSteps_eq_none growing isTotal (by rw [fromStart]; exact isFirst)]
    constructor
    · exact fun _ _ _ isSome => nomatch isSome
    · exact fun _ => rfl
  | some found =>
    obtain ⟨ifClear, isClear⟩ := searchSteps_eq_firstEnding growing isTotal
      (by rw [fromStart]; exact isFirst)
    constructor
    · intro same stopString stopEnd isFound
      cases isFound
      refine isClear ?_
      have sameStop := congrArg Prod.fst same
      cases isSearched : searchSteps self.stop (self.textAfter decodeNext
          (spoken self.includeStopStrInOutput stopTerminated groups.flatten)) self.minTokens 0
          (groups.map List.length) with
      | none =>
        rw [isSearched] at sameStop
        exact nomatch sameStop
      | some reported =>
        rw [isSearched] at sameStop
        exact sameStop
    · intro clear
      rw [ifClear (clear _ _ rfl)]

theorem FirstIsListedFirst.split {stopTerminated : Bool} {groups : List (List TokenId)}
    (isClear : self.FirstIsListedFirst decodeNext stopTerminated groups) :
    self.FirstIsListedFirst decodeNext stopTerminated (groups.flatten.map fun token => [token]) := by
  have sameTokens : (groups.flatten.map fun token => [token]).flatten = groups.flatten := by
    rw [← flatMap_def, flatMap_singleton']
  have ones : (groups.flatten.map fun token => [token]).map List.length =
      (groups.map fun group => group.map fun _ => 1).flatten := by
    rw [map_map, map_flatten]
    rfl
  have sums : (groups.map fun group => group.map fun _ => 1).map List.sum = groups.map List.length := by
    rw [map_map]
    refine map_congr_left fun group _ => ?_
    simp
  rw [FirstIsListedFirst, sameTokens, ones]
  intro stopString stopEnd isFirst
  refine ListedFirst.split (textAfter_growing decodeNext _) _ ?_
  rw [sums]
  exact isClear stopString stopEnd isFirst

end Groups

end BaseIncrementalDetokenizer

/-- Fed one token at a time or in groups, up to the first stop string, the detokenizer
gives the stop string that ends first, and the text cut at it, when no stop string listed
before that one ends in the text of the same group. -/
theorem stop_iff_firstIsListedFirst {D : Type} (decodeNext : D → List TokenId → Text × D) (stop : List Text)
    (nonempty : [] ∉ stop) (minTokens : Nat) (includeStopStrInOutput stopTerminated : Bool) (decoder : D)
    (promptTokenIds : List TokenId) (groups : List (List TokenId)) :
    let detokenizer := BaseIncrementalDetokenizer.new stop minTokens includeStopStrInOutput decoder promptTokenIds
    let expected := detokenizer.cutAtFirst decodeNext stopTerminated groups.flatten
    (detokenizer.feed decodeNext stopTerminated (groups.flatten.map fun token => [token]) = expected ∧
        detokenizer.feed decodeNext stopTerminated groups = expected) ↔
      detokenizer.FirstIsListedFirst decodeNext stopTerminated groups := by
  intro detokenizer expected
  have grouped := detokenizer.feed_eq_cutAtFirst decodeNext nonempty rfl stopTerminated groups
  have single := detokenizer.feed_eq_cutAtFirst decodeNext nonempty rfl stopTerminated
    (groups.flatten.map fun token => [token])
  rw [← flatMap_def, flatMap_singleton'] at single
  constructor
  · exact fun both => grouped.mp both.2
  · exact fun isClear => ⟨single.mpr isClear.split, grouped.mpr isClear⟩

def decodeLetter (_ : Unit) (tokenIds : List TokenId) : Text × Unit :=
  (if tokenIds.getLast? = some 1 then ['a'] else ['b'], ())

/-- "a" ends first, and is listed first among those that end in the group. -/
theorem stop_at_first_letter :
    let detokenizer := BaseIncrementalDetokenizer.new [['a'], ['b']] 0 false () []
    detokenizer.feed decodeLetter false [[1], [2]] = (some ['a'], []) ∧
      detokenizer.feed decodeLetter false [[1, 2]] = (some ['a'], []) := by
  intro detokenizer
  have same := stop_iff_firstIsListedFirst decodeLetter [['a'], ['b']] (by decide) 0 false false () [] [[1, 2]]
  exact same.mpr (by
    intro stopString stopEnd isFirst
    have isFound : (['a'], 1) = (stopString, stopEnd) := Option.some.inj isFirst
    cases isFound
    intro window _ _ _ other isOther
    exact absurd isOther not_mem_nil)

/-- With "b" listed before "a", the tokens of "ab" in one group stop at "b", and keep "a". -/
theorem grouped_letters_stop_later : ¬ ∀ groups : List (List TokenId),
    let detokenizer := BaseIncrementalDetokenizer.new [['b'], ['a']] 0 false () []
    detokenizer.feed decodeLetter false (groups.flatten.map fun token => [token]) =
      detokenizer.feed decodeLetter false groups := by
  intro same
  have differ : ¬ (some ['a'], []) = (some ['b'], ['a']) := by decide
  exact differ (same [[1, 2]])

end DeepSpark
