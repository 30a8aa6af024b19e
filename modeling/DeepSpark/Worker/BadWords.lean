import DeepSpark.Worker.SamplerRows

/-!
Bad words under speculation: `v1/worker/gpu/sample/bad_words.py`, and the reference of
`v1/sample/ops/bad_words.py`.

Owns the staged bad words of the slots, the kernel that masks logits, the history that the
kernel reads for a row, the tokens it bans there, and when these are the tokens that the
reference bans.
-/

namespace DeepSpark

open Lib Function List

/-! ## Banned tokens -/

def tokenValue {vocab : Nat} (token : Fin vocab) : Int := token.val

def Banned {vocab : Nat} (badWords : List (List (Fin vocab))) (history : List Int) (token : Fin vocab) : Prop :=
  ∃ badWord ∈ badWords, ∃ start, badWord = start ++ [token] ∧ start.map tokenValue <:+ history

/-- A row of logits with exactly the banned tokens set. -/
structure BannedRow {L : Type} {vocab : Nat} (negInf : L) (badWords : List (List (Fin vocab))) (history : List Int)
    (before after : Fin vocab → L) : Prop where
  banned : ∀ token, Banned badWords history token → after token = negInf
  unchanged : ∀ token, ¬ Banned badWords history token → after token = before token

/-- Two rows of the same logits agree where the same tokens are banned, and where a token is set
already. -/
theorem BannedRow.agrees_iff {L : Type} {vocab : Nat} {negInf : L} {badWords : List (List (Fin vocab))}
    {history other : List Int} {before after : Fin vocab → L} (row : BannedRow negInf badWords history before after) :
    BannedRow negInf badWords other before after ↔
      ∀ token, before token ≠ negInf → (Banned badWords history token ↔ Banned badWords other token) := by
  constructor
  · intro otherRow token notSet
    constructor
    · intro isBanned
      by_contra notBanned
      exact notSet ((otherRow.unchanged token notBanned).symm.trans (row.banned token isBanned))
    · intro isBanned
      by_contra notBanned
      exact notSet ((row.unchanged token notBanned).symm.trans (otherRow.banned token isBanned))
  · intro same
    have unset : ∀ token, before token = negInf → after token = negInf := by
      intro token isSet
      by_cases isBanned : Banned badWords history token
      · exact row.banned token isBanned
      · rw [row.unchanged token isBanned, isSet]
    constructor
    · intro token isBanned
      by_cases isSet : before token = negInf
      · exact unset token isSet
      · exact row.banned token ((same token isSet).mpr isBanned)
    · intro token notBanned
      by_cases isSet : before token = negInf
      · rw [unset token isSet, isSet]
      · exact row.unchanged token fun isBanned => notBanned ((same token isSet).mp isBanned)

/-! ## The reference -/

section Reference

variable {L : Type} {vocab : Nat} (negInf : L)

def applyBadWord (pastTokensIds : List Int) (logits : Fin vocab → L) (badWordIds : List (Fin vocab)) :
    Except PyError (Fin vocab → L) :=
  if badWordIds.length > pastTokensIds.length + 1 then .ok logits
  else
    match badWordIds.getLast? with
    | none => .error (.indexError "list index out of range")
    | some lastTokenId => do
        let prefixLength := badWordIds.length - 1
        let actualPrefix := if prefixLength > 0 then pyDrop (-(prefixLength : Int)) pastTokensIds else []
        let expectedPrefix := (badWordIds.take prefixLength).map tokenValue
        pyAssert (actualPrefix.length = expectedPrefix.length) ""
        .ok (if actualPrefix = expectedPrefix then Function.update logits lastTokenId negInf else logits)

def applyBadWordsSingleBatch (logits : Fin vocab → L) (badWordsTokenIds : List (List (Fin vocab)))
    (pastTokensIds : List Int) : Except PyError (Fin vocab → L) :=
  badWordsTokenIds.foldlM (applyBadWord negInf pastTokensIds) logits

variable {negInf} {pastTokensIds : List Int}

theorem applyBadWord_ok (logits : Fin vocab → L) {badWordIds : List (Fin vocab)} (notEmpty : badWordIds ≠ []) :
    ∃ after, applyBadWord negInf pastTokensIds logits badWordIds = .ok after ∧
      BannedRow negInf [badWordIds] pastTokensIds logits after := by
  have isBanned : ∀ token, Banned [badWordIds] pastTokensIds token ↔
      ∃ start, badWordIds = start ++ [token] ∧ start.map tokenValue <:+ pastTokensIds := by
    intro token
    simp only [Banned, mem_singleton, exists_eq_left]
  obtain ⟨start, lastTokenId, rfl⟩ := (eq_nil_or_concat' badWordIds).resolve_left notEmpty
  have onlyLast : ∀ token, Banned [start ++ [lastTokenId]] pastTokensIds token ↔
      token = lastTokenId ∧ start.map tokenValue <:+ pastTokensIds := by
    intro token
    rw [isBanned]
    constructor
    · rintro ⟨other, same, isSuffix⟩
      obtain ⟨rfl, isLast⟩ := append_inj' same rfl
      exact ⟨(singleton_inj.mp isLast).symm, isSuffix⟩
    · rintro ⟨rfl, isSuffix⟩
      exact ⟨start, rfl, isSuffix⟩
  rw [applyBadWord, length_append, length_singleton]
  by_cases tooLong : start.length + 1 > pastTokensIds.length + 1
  · rw [if_pos tooLong]
    refine ⟨logits, rfl, fun token banned => ?_, fun _ _ => rfl⟩
    have short := ((onlyLast token).mp banned).2.length_le
    rw [length_map] at short
    omega
  · have isActual : (if start.length + 1 - 1 > 0 then pyDrop (-((start.length + 1 - 1 : Nat) : Int)) pastTokensIds else []) =
        pastTokensIds.drop (pastTokensIds.length - start.length) := by
      split_ifs with positive
      · exact pyDrop_neg positive pastTokensIds
      · rw [show start.length = 0 by omega, Nat.sub_zero, drop_length]
    have isExpected : ((start ++ [lastTokenId]).take (start.length + 1 - 1)).map tokenValue = start.map tokenValue := by
      rw [Nat.add_sub_cancel, take_left]
    have sameLength : (pastTokensIds.drop (pastTokensIds.length - start.length)).length = (start.map tokenValue).length := by
      rw [length_drop, length_map]
      omega
    have isSuffix : start.map tokenValue <:+ pastTokensIds ↔
        pastTokensIds.drop (pastTokensIds.length - start.length) = start.map tokenValue := by
      rw [suffix_iff_eq_drop, length_map, eq_comm]
    rw [if_neg tooLong, getLast?_concat]
    dsimp only
    rw [isActual, isExpected, decide_eq_true sameLength, pyAssert_true]
    refine ⟨_, rfl, ?_, ?_⟩
    · intro token banned
      obtain ⟨rfl, ends⟩ := (onlyLast token).mp banned
      rw [if_pos (isSuffix.mp ends), update_self]
    · intro token notBanned
      split_ifs with matched
      · apply update_of_ne
        rintro rfl
        exact notBanned ((onlyLast token).mpr ⟨rfl, isSuffix.mpr matched⟩)
      · rfl

theorem applyBadWordsSingleBatch_ok (logits : Fin vocab → L) {badWordsTokenIds : List (List (Fin vocab))}
    (notEmpty : ∀ badWord ∈ badWordsTokenIds, badWord ≠ []) :
    ∃ after, applyBadWordsSingleBatch negInf logits badWordsTokenIds pastTokensIds = .ok after ∧
      BannedRow negInf badWordsTokenIds pastTokensIds logits after := by
  induction badWordsTokenIds generalizing logits with
  | nil => exact ⟨logits, rfl, fun _ ⟨_, member, _⟩ => (nomatch member), fun _ _ => rfl⟩
  | cons badWord rest ih =>
    obtain ⟨middle, isMiddle, head⟩ : ∃ middle, applyBadWord negInf pastTokensIds logits badWord = .ok middle ∧
        BannedRow negInf [badWord] pastTokensIds logits middle :=
      applyBadWord_ok logits (notEmpty badWord mem_cons_self)
    obtain ⟨after, isAfter, tail⟩ := ih middle
      fun other member => notEmpty other (mem_cons_of_mem _ member)
    have isBanned : ∀ token, Banned (badWord :: rest) pastTokensIds token ↔
        Banned [badWord] pastTokensIds token ∨ Banned rest pastTokensIds token := by
      intro token
      simp only [Banned, mem_cons, exists_eq_or_imp, not_mem_nil, or_false, exists_eq_left]
    refine ⟨after, bind_eq_ok.mpr ⟨middle, isMiddle, isAfter⟩, ?_, ?_⟩
    · intro token banned
      by_cases later : Banned rest pastTokensIds token
      · exact tail.banned token later
      · rw [tail.unchanged token later]
        exact head.banned token (((isBanned token).mp banned).resolve_right later)
    · intro token notBanned
      obtain ⟨notHead, notTail⟩ := not_or.mp (mt (isBanned token).mpr notBanned)
      rw [tail.unchanged token notTail, head.unchanged token notHead]

end Reference

/-! ## The state of the slots -/

def maxBadWordsTotalTokens : Nat := 1024

def maxNumBadWords : Nat := 128

/-- `BadWordsState`; both tables are addressed by row stride. -/
structure BadWordsState (vocab : Nat) where
  badWordTokenIds : Buffer Nat (Fin vocab)
  badWordOffsets : Buffer Nat Nat
  numBadWords : Buffer Nat Nat

def flattenBadWords {α : Type} (badWords : List (List α)) : List α × List Nat :=
  badWords.foldl (fun (flattenedTokens, offsets) badWord =>
    (flattenedTokens ++ badWord, offsets ++ [(flattenedTokens ++ badWord).length])) ([], [0])

namespace BadWordsState

variable {vocab : Nat}

/-- `add_request` in a slot, with the staged writes applied. -/
def addRequest (state : BadWordsState vocab) (reqIdx : Nat) (badWordsTokenIds : Option (List (List (Fin vocab)))) :
    Except PyError (BadWordsState vocab) :=
  let badWords := badWordsTokenIds.getD []
  let numBadWords := badWords.length
  let (flattenedTokens, offsets) := flattenBadWords badWords
  let total := flattenedTokens.length
  if badWords.isEmpty then
    .ok { state with numBadWords := Function.update state.numBadWords reqIdx 0 }
  else if numBadWords > maxNumBadWords then
    .error (.valueError s!"Too many bad words: {numBadWords}. The max number is {maxNumBadWords}.")
  else if total > maxBadWordsTotalTokens then
    .error (.valueError s!"Too many total bad word tokens: {total}. The max is {maxBadWordsTotalTokens}.")
  else
    .ok { badWordTokenIds := state.badWordTokenIds.write (rowStores maxBadWordsTotalTokens reqIdx flattenedTokens)
          badWordOffsets := state.badWordOffsets.write (rowStores (maxNumBadWords + 1) reqIdx offsets)
          numBadWords := Function.update state.numBadWords reqIdx numBadWords }

end BadWordsState

variable {α : Type}

theorem flattenBadWords_eq (badWords : List (List α)) :
    flattenBadWords badWords =
      (badWords.flatten, (List.range (badWords.length + 1)).map fun count => ((badWords.take count).flatten).length) := by
  induction badWords using List.reverseRecOn with
  | nil => rfl
  | append_singleton words word ih =>
    have unfolded : flattenBadWords (words ++ [word]) =
        ((flattenBadWords words).1 ++ word, (flattenBadWords words).2 ++ [((flattenBadWords words).1 ++ word).length]) :=
      foldl_append
    have flattened : (words ++ [word]).flatten = words.flatten ++ word := by
      rw [flatten_append, flatten_singleton]
    have earlier : ∀ count ∈ List.range (words.length + 1),
        (((words ++ [word]).take count).flatten).length = ((words.take count).flatten).length := by
      intro count inRange
      rw [take_append_of_le_length (Nat.lt_succ_iff.mp (mem_range.mp inRange))]
    have isLength : (words ++ [word]).length = words.length + 1 := by rw [length_append, length_singleton]
    have isLast : ((words ++ [word]).take (words.length + 1)).flatten = words.flatten ++ word := by
      rw [take_of_length_le isLength.le, flattened]
    rw [unfolded, ih, flattened, isLength, range_succ (n := words.length + 1), map_append,
      map_congr_left earlier, map_singleton, isLast]

variable {index : Nat}

theorem getElem?_flatten_place {words : List (List α)} {word : List α}
    (isWord : words[index]? = some word) {offset : Nat} (inWord : offset < word.length) :
    words.flatten[((words.take index).flatten).length + offset]? = word[offset]? := by
  obtain ⟨inWords, isAt⟩ := List.getElem?_eq_some_iff.mp isWord
  have split : words.flatten = (words.take index).flatten ++ (word ++ (words.drop (index + 1)).flatten) := by
    have parts : words = words.take index ++ word :: words.drop (index + 1) := by
      rw [← isAt, ← drop_eq_getElem_cons inWords, take_append_drop]
    conv_lhs => rw [parts]
    rw [flatten_append, flatten_cons]
  rw [split, getElem?_append_right (Nat.le_add_right _ _), Nat.add_sub_cancel_left,
    getElem?_append_left inWord]

namespace BadWordsState

variable {vocab : Nat}

structure Holds (state : BadWordsState vocab) (slot : Nat) (badWords : List (List (Fin vocab))) : Prop where
  few : badWords.length ≤ maxNumBadWords
  short : badWords.flatten.length ≤ maxBadWordsTotalTokens
  count : state.numBadWords slot = badWords.length
  offset : badWords ≠ [] → ∀ count ≤ badWords.length,
    state.badWordOffsets (slot * (maxNumBadWords + 1) + count) = ((badWords.take count).flatten).length
  token : ∀ index < badWords.flatten.length,
    badWords.flatten[index]? = some (state.badWordTokenIds (slot * maxBadWordsTotalTokens + index))

variable {before after : BadWordsState vocab} {reqIdx : Nat} {badWordsTokenIds : Option (List (List (Fin vocab)))}

/-- What a request that is accepted writes: only its number when it has no bad words. -/
theorem addRequest_cases (added : before.addRequest reqIdx badWordsTokenIds = .ok after) :
    let badWords := badWordsTokenIds.getD []
    badWords.length ≤ maxNumBadWords ∧ badWords.flatten.length ≤ maxBadWordsTotalTokens ∧
      (badWords = [] ∧ after = { before with numBadWords := update before.numBadWords reqIdx 0 } ∨
        badWords ≠ [] ∧ after = ⟨before.badWordTokenIds.write (rowStores maxBadWordsTotalTokens reqIdx badWords.flatten),
          before.badWordOffsets.write (rowStores (maxNumBadWords + 1) reqIdx
            ((List.range (badWords.length + 1)).map fun count => ((badWords.take count).flatten).length)),
          update before.numBadWords reqIdx badWords.length⟩) := by
  intro badWords
  unfold addRequest at added
  dsimp only at added
  rw [flattenBadWords_eq] at added
  split at added
  next isEmpty =>
    cases added
    have none : badWords = [] := isEmpty_iff.mp isEmpty
    rw [none]
    exact ⟨Nat.zero_le _, Nat.zero_le _, Or.inl ⟨rfl, rfl⟩⟩
  next notEmpty =>
    split at added
    · cases added
    · split at added
      · cases added
      · cases added
        refine ⟨not_lt.mp ‹_›, not_lt.mp ‹_›, Or.inr ⟨fun isNil => notEmpty (isEmpty_iff.mpr isNil), rfl⟩⟩

theorem exists_addRequest (before : BadWordsState vocab) (reqIdx : Nat) {badWords : List (List (Fin vocab))}
    (few : badWords.length ≤ maxNumBadWords) (short : badWords.flatten.length ≤ maxBadWordsTotalTokens) :
    ∃ after, before.addRequest reqIdx (some badWords) = .ok after := by
  unfold addRequest
  dsimp only
  rw [flattenBadWords_eq]
  dsimp only [Option.getD_some]
  split
  · exact ⟨_, rfl⟩
  · rw [if_neg (not_lt.mpr few), if_neg (not_lt.mpr short)]
    exact ⟨_, rfl⟩

theorem holds_occupied {slot : Nat} {state : BadWordsState vocab}
    (occupies : Occupies addRequest slot badWordsTokenIds state) : state.Holds slot (badWordsTokenIds.getD []) := by
  apply occupies.holds
  · intro before after added
    obtain ⟨few, short, ⟨isNil, rfl⟩ | ⟨-, rfl⟩⟩ := addRequest_cases added
    · rw [isNil]
      exact ⟨Nat.zero_le _, Nat.zero_le _, update_self _ _ _, fun absent => absurd rfl absent,
        fun _ below => absurd below (Nat.not_lt_zero _)⟩
    · refine ⟨few, short, update_self _ _ _, fun _ count within => ?_, fun index below => ?_⟩
      · apply write_rowStores_own
        rw [getElem?_map, getElem?_range (Nat.lt_succ_iff.mpr within)]
        rfl
      · have isToken := getElem?_eq_getElem below
        rw [isToken]
        exact congrArg some (write_rowStores_own before.badWordTokenIds isToken).symm
  · intro before after other otherData isOther added holds
    obtain ⟨otherFew, otherShort, ⟨-, rfl⟩ | ⟨-, rfl⟩⟩ := addRequest_cases added
    · exact ⟨holds.few, holds.short, (update_of_ne isOther.symm _ _).trans holds.count, holds.offset, holds.token⟩
    · refine ⟨holds.few, holds.short, (update_of_ne isOther.symm _ _).trans holds.count,
        fun notEmpty count within => ?_, fun index below => ?_⟩
      · have few := holds.few
        have fits : ((List.range ((otherData.getD []).length + 1)).map fun count =>
            (((otherData.getD []).take count).flatten).length).length ≤ maxNumBadWords + 1 := by
          rw [length_map, length_range]
          exact Nat.succ_le_succ otherFew
        rw [← holds.offset notEmpty count within]
        exact write_rowStores_other _ fits isOther (by omega)
      · have short := holds.short
        rw [holds.token index below]
        exact congrArg some (write_rowStores_other _ otherShort isOther (by omega)).symm

theorem Holds.word {state : BadWordsState vocab} {slot : Nat} {badWords : List (List (Fin vocab))}
    (holds : state.Holds slot badWords) {badWord : List (Fin vocab)}
    (isWord : badWords[index]? = some badWord) :
    state.badWordOffsets (slot * (maxNumBadWords + 1) + index + 1) =
        state.badWordOffsets (slot * (maxNumBadWords + 1) + index) + badWord.length ∧
      ∀ offset < badWord.length, badWord[offset]? = some (state.badWordTokenIds
        (slot * maxBadWordsTotalTokens + state.badWordOffsets (slot * (maxNumBadWords + 1) + index) + offset)) := by
  obtain ⟨inWords, isAt⟩ := List.getElem?_eq_some_iff.mp isWord
  have notEmpty : badWords ≠ [] := ne_nil_of_length_pos ((Nat.zero_le _).trans_lt inWords)
  have nextTake : ((badWords.take (index + 1)).flatten).length = ((badWords.take index).flatten).length + badWord.length := by
    rw [take_add_one, isWord, Option.toList_some, flatten_append, length_append, flatten_singleton]
  rw [Nat.add_assoc, holds.offset notEmpty (index + 1) inWords, holds.offset notEmpty index inWords.le]
  refine ⟨nextTake, fun offset inWord => ?_⟩
  have place := getElem?_flatten_place isWord inWord
  have inTokens : ((badWords.take index).flatten).length + offset < badWords.flatten.length := by
    rw [getElem?_eq_getElem inWord] at place
    exact (List.getElem?_eq_some_iff.mp place).1
  rw [← place, holds.token _ inTokens, Nat.add_assoc]

end BadWordsState

/-! ## The kernel -/

structure BadWordsArgs (vocab : Nat) where
  logitsStride : Nat
  expandedIdxMapping : Buffer Nat Nat
  state : BadWordsState vocab
  allTokenIds : Buffer Nat Int
  allTokenIdsStride : Nat
  promptLen : Buffer Nat Nat
  totalLen : Buffer Nat Nat
  inputIds : Buffer Nat Int
  expandedLocalPos : Buffer Nat Nat

namespace BadWordsArgs

variable {vocab : Nat} (args : BadWordsArgs vocab)

def outputLen (tokenIdx : Nat) : Nat :=
  let reqStateIdx := args.expandedIdxMapping tokenIdx
  args.totalLen reqStateIdx - args.promptLen reqStateIdx

/-- `actual` at a position of the history. -/
def actual (tokenIdx actualPos : Nat) : Int :=
  let reqStateIdx := args.expandedIdxMapping tokenIdx
  let pos := args.expandedLocalPos tokenIdx
  let curReqFirstPos := tokenIdx - pos
  if actualPos ≥ args.outputLen tokenIdx then
    let specOffset := actualPos - args.outputLen tokenIdx
    args.inputIds (curReqFirstPos + specOffset)
  else
    args.allTokenIds (reqStateIdx * args.allTokenIdsStride + args.promptLen reqStateIdx + actualPos)

/-- `_bad_words_kernel`, for words that are not empty. -/
def stores {L : Type} (negInf : L) (program : Nat × Nat) : List (Store Nat L) :=
  let tokenIdx := program.1
  let bwIdx := program.2
  let reqStateIdx := args.expandedIdxMapping tokenIdx
  if bwIdx ≥ args.state.numBadWords reqStateIdx then []
  else
    let effectiveLen := args.outputLen tokenIdx + args.expandedLocalPos tokenIdx
    let bdOffsetsBase := reqStateIdx * (maxNumBadWords + 1)
    let bdTokensBase := reqStateIdx * maxBadWordsTotalTokens
    let start := args.state.badWordOffsets (bdOffsetsBase + bwIdx)
    let stop := args.state.badWordOffsets (bdOffsetsBase + bwIdx + 1)
    let badWordLen := stop - start
    let prefixLen := badWordLen - 1
    if prefixLen > effectiveLen then []
    else
      let lastToken := args.state.badWordTokenIds (bdTokensBase + stop - 1)
      let isMatch := (List.range prefixLen).all fun i =>
        tokenValue (args.state.badWordTokenIds (bdTokensBase + start + i)) ==
          args.actual tokenIdx (effectiveLen - prefixLen + i)
      if isMatch then [⟨tokenIdx * args.logitsStride + lastToken, negInf⟩] else []

def Applied {L : Type} (negInf : L) (layout : BatchLayout) (logits after : Buffer Nat L) : Prop :=
  let maxNumBadWords := ((List.range layout.numReqs).map fun row => args.state.numBadWords (layout.idxMapping row)).max?.getD 0
  if maxNumBadWords = 0 then after = logits
  else Launched ((List.range (layout.cuNumLogits layout.numReqs)).product (List.range maxNumBadWords)) (args.stores negInf)
    logits after

structure Reads (tokenIdx : Nat) (history : List Int) : Prop where
  length : history.length = args.outputLen tokenIdx + args.expandedLocalPos tokenIdx
  read : ∀ position < history.length, history[position]? = some (args.actual tokenIdx position)

theorem exists_applied {L : Type} (negInf : L) (layout : BatchLayout) (logits : Buffer Nat L) :
    ∃ after, args.Applied negInf layout logits after := by
  unfold Applied
  dsimp only
  split
  · exact ⟨logits, rfl⟩
  · exact ⟨_, launched_launch _ _ _⟩

theorem suffix_iff_read {ending history : List α} :
    ending <:+ history ↔ ending.length ≤ history.length ∧
      ∀ i < ending.length, ending[i]? = history[history.length - ending.length + i]? := by
  rw [suffix_iff_eq_drop]
  constructor
  · intro isDrop
    have within : ending.length ≤ history.length := by
      rw [isDrop, length_drop]
      exact Nat.sub_le _ _
    refine ⟨within, fun i _ => ?_⟩
    conv_lhs => rw [isDrop]
    rw [getElem?_drop]
  · rintro ⟨within, same⟩
    apply ext_getElem?
    intro i
    rw [getElem?_drop]
    rcases lt_or_ge i ending.length with below | above
    · exact same i below
    · rw [getElem?_eq_none above, getElem?_eq_none (by omega)]

variable {args} {L : Type} {negInf : L} {tokenIdx bwIdx : Nat} {badWords : List (List (Fin vocab))} {history : List Int}

theorem exists_of_mem_stores {store : Store Nat L} (stored : store ∈ args.stores negInf (tokenIdx, bwIdx)) :
    ∃ token : Fin vocab, store = ⟨tokenIdx * args.logitsStride + token, negInf⟩ := by
  rw [stores] at stored
  dsimp only at stored
  split_ifs at stored
  · exact nomatch stored
  · exact nomatch stored
  · exact ⟨_, mem_singleton.mp stored⟩
  · exact nomatch stored

/-- A program bans the last token of its word where the others end the history it reads. -/
theorem stores_word (holds : args.state.Holds (args.expandedIdxMapping tokenIdx) badWords)
    (reads : args.Reads tokenIdx history) {start : List (Fin vocab)} {token : Fin vocab}
    (isWord : badWords[bwIdx]? = some (start ++ [token])) :
    args.stores negInf (tokenIdx, bwIdx) =
      if start.map tokenValue <:+ history then [⟨tokenIdx * args.logitsStride + token, negInf⟩] else [] := by
  obtain ⟨isStop, isToken⟩ := holds.word isWord
  rw [length_append, length_singleton] at isStop isToken
  have inWords : bwIdx < badWords.length := (List.getElem?_eq_some_iff.mp isWord).1
  have launchedWord : ¬ bwIdx ≥ args.state.numBadWords (args.expandedIdxMapping tokenIdx) := by
    rw [holds.count]
    omega
  have isLength : history.length = args.outputLen tokenIdx + args.expandedLocalPos tokenIdx := reads.length
  rw [stores]
  dsimp only
  rw [if_neg launchedWord, isStop, Nat.add_sub_cancel_left, Nat.add_sub_cancel, ← isLength]
  have isLast := isToken start.length (Nat.lt_succ_self _)
  rw [getElem?_concat_length, Option.some_inj] at isLast
  have matches_iff : ((List.range start.length).all fun i =>
      tokenValue (args.state.badWordTokenIds (args.expandedIdxMapping tokenIdx * maxBadWordsTotalTokens +
          args.state.badWordOffsets (args.expandedIdxMapping tokenIdx * (maxNumBadWords + 1) + bwIdx) + i)) ==
        args.actual tokenIdx (history.length - start.length + i)) = true ↔
      ∀ i < start.length, (start.map tokenValue)[i]? = some (args.actual tokenIdx (history.length - start.length + i)) := by
    rw [all_eq_true]
    have read : ∀ i < start.length, (start.map tokenValue)[i]? =
        some (tokenValue (args.state.badWordTokenIds (args.expandedIdxMapping tokenIdx * maxBadWordsTotalTokens +
          args.state.badWordOffsets (args.expandedIdxMapping tokenIdx * (maxNumBadWords + 1) + bwIdx) + i))) := by
      intro i below
      have isAt := isToken i (by omega)
      rw [getElem?_append_left below] at isAt
      rw [getElem?_map, isAt]
      rfl
    constructor
    · intro all i below
      rw [read i below, eq_of_beq (all i (mem_range.mpr below))]
    · intro all i inRange
      have below := mem_range.mp inRange
      have same := all i below
      rw [read i below, Option.some_inj] at same
      exact beq_iff_eq.mpr same
  by_cases tooLong : start.length > history.length
  · have notSuffix : ¬ start.map tokenValue <:+ history := by
      intro isSuffix
      have within := isSuffix.length_le
      rw [length_map] at within
      omega
    rw [if_pos tooLong, if_neg notSuffix]
  · have isSuffix : start.map tokenValue <:+ history ↔
        ∀ i < start.length, (start.map tokenValue)[i]? = some (args.actual tokenIdx (history.length - start.length + i)) := by
      rw [suffix_iff_read, length_map, and_iff_right (not_lt.mp tooLong)]
      have read : ∀ i < start.length, history[history.length - start.length + i]? =
          some (args.actual tokenIdx (history.length - start.length + i)) := fun i below => reads.read _ (by omega)
      constructor
      · intro same i below
        rw [same i below, read i below]
      · intro same i below
        rw [same i below, read i below]
    rw [if_neg tooLong]
    by_cases matched : start.map tokenValue <:+ history
    · have place : args.expandedIdxMapping tokenIdx * maxBadWordsTotalTokens +
            (args.state.badWordOffsets (args.expandedIdxMapping tokenIdx * (maxNumBadWords + 1) + bwIdx) +
              (start.length + 1)) - 1 =
          args.expandedIdxMapping tokenIdx * maxBadWordsTotalTokens +
            args.state.badWordOffsets (args.expandedIdxMapping tokenIdx * (maxNumBadWords + 1) + bwIdx) + start.length := by
        omega
      rw [if_pos matched, if_pos (matches_iff.mpr (isSuffix.mp matched)), place, ← isLast]
    · rw [if_neg matched, if_neg (mt matches_iff.mp (mt isSuffix.mpr matched))]

theorem Applied.bannedRow {layout : BatchLayout} {logits after : Buffer Nat L}
    (applied : args.Applied negInf layout logits after) {row : Nat} (inBatch : row < layout.numReqs)
    (isSlot : args.expandedIdxMapping tokenIdx = layout.idxMapping row)
    (inLogits : tokenIdx < layout.cuNumLogits layout.numReqs) (wide : vocab ≤ args.logitsStride)
    (holds : args.state.Holds (layout.idxMapping row) badWords) (notEmpty : ∀ badWord ∈ badWords, badWord ≠ [])
    (reads : args.Reads tokenIdx history) :
    BannedRow negInf badWords history (fun token : Fin vocab => logits (tokenIdx * args.logitsStride + token))
      fun token => after (tokenIdx * args.logitsStride + token) := by
  rw [← isSlot] at holds
  have atMost : badWords.length ≤
      ((List.range layout.numReqs).map fun row => args.state.numBadWords (layout.idxMapping row)).max?.getD 0 := by
    apply le_max?_getD_of_mem
    rw [← holds.count, isSlot]
    exact mem_map_of_mem (mem_range.mpr inBatch)
  rw [Applied] at applied
  split at applied
  next isZero =>
    have noWords : badWords = [] := eq_nil_of_length_eq_zero (by omega)
    rw [applied, noWords]
    exact ⟨fun token ⟨_, member, _⟩ => (nomatch member), fun _ _ => rfl⟩
  next =>
    constructor
    · rintro token ⟨_, isWord, start, rfl, isSuffix⟩
      obtain ⟨bwIdx, isAt⟩ := getElem?_of_mem isWord
      have inWords := (List.getElem?_eq_some_iff.mp isAt).1
      have inGrid : (tokenIdx, bwIdx) ∈ (List.range (layout.cuNumLogits layout.numReqs)).product (List.range
          (((List.range layout.numReqs).map fun row => args.state.numBadWords (layout.idxMapping row)).max?.getD 0)) :=
        mem_product.mpr ⟨mem_range.mpr inLogits, mem_range.mpr (by omega)⟩
      have member : (⟨tokenIdx * args.logitsStride + token, negInf⟩ : Store Nat L) ∈ args.stores negInf (tokenIdx, bwIdx) := by
        rw [stores_word holds reads isAt, if_pos isSuffix]
        exact mem_singleton_self _
      refine applied.agreed inGrid member fun other _ store stored _ => ?_
      obtain ⟨_, rfl⟩ := exists_of_mem_stores stored
      rfl
    · intro token notBanned
      refine applied.untouched ?_
      rintro ⟨otherIdx, bwIdx⟩ inGrid store stored same
      obtain ⟨otherToken, rfl⟩ := exists_of_mem_stores stored
      obtain ⟨sameRow, sameToken⟩ := flat_inj (otherToken.isLt.trans_le wide) (token.isLt.trans_le wide) same
      obtain rfl : otherIdx = tokenIdx := sameRow
      rw [Fin.ext sameToken] at stored
      by_cases inWords : bwIdx < badWords.length
      · have isAt := getElem?_eq_getElem inWords
        have isMember := mem_of_getElem? isAt
        obtain ⟨start, last, isWord⟩ := (eq_nil_or_concat' badWords[bwIdx]).resolve_left (notEmpty _ isMember)
        rw [isWord] at isAt isMember
        rw [stores_word holds reads isAt] at stored
        split at stored
        next isSuffix =>
          have isLast := congrArg Store.address (mem_singleton.mp stored)
          have sameLast : token = last := Fin.ext (Nat.add_left_cancel isLast)
          subst sameLast
          exact notBanned ⟨_, isMember, start, rfl, isSuffix⟩
        next => exact nomatch stored
      · rw [stores, if_pos (holds.count.le.trans (not_lt.mp inWords))] at stored
        exact nomatch stored

end BadWordsArgs

/-! ## The rows of a step -/

/-- The outputs of a request and its first drafts. -/
def extendedHistory (seq : Sequence) (turn : Turn) (promptLen index : Nat) : List Int :=
  seq.tokens.drop promptLen ++ turn.drafts.take index

/-- What the kernel reads instead: the gathered inputs start with the last token, not with a
draft. -/
def gatheredHistory (seq : Sequence) (turn : Turn) (promptLen index : Nat) : List Int :=
  seq.tokens.drop promptLen ++ (seq.tokens.drop (seq.tokens.length - 1) ++ turn.drafts).take index

/-- The arguments that `apply_bad_words` passes to the kernel. -/
def BatchLayout.badWordsArgs {vocab : Nat} (layout : BatchLayout) (states : DeviceStates) (buffers : InputBuffers)
    (promptLens expandedIdxMapping expandedLocalPos : Buffer Nat Nat) (state : BadWordsState vocab) (logitsStride : Nat) :
    BadWordsArgs vocab where
  logitsStride := logitsStride
  expandedIdxMapping := expandedIdxMapping
  state := state
  allTokenIds := states.allTokenIds
  allTokenIdsStride := layout.maxModelLen
  promptLen := promptLens
  totalLen := states.totalLen
  inputIds := buffers.sampledInputs
  expandedLocalPos := expandedLocalPos

section

variable {maxModelLen numSpeculativeSteps slot promptLen : Nat} {states : DeviceStates} {cache : Buffer Nat (Option Int)}
  {seq next : Sequence} {layout : BatchLayout} {buffers : InputBuffers} {result : SamplerResult}
  {afterStep : DeviceStates} {row : Nat} {promptLens expandedIdxMapping expandedLocalPos : Buffer Nat Nat}
  {vocab : Nat}

theorem Tracks.readsGathered (tracks : Tracks maxModelLen slot states cache seq) (state : BadWordsState vocab)
    (logitsStride : Nat)
    (step : RunnerStep maxModelLen numSpeculativeSteps layout states buffers result afterStep)
    (inBatch : row < layout.numReqs) (isSlot : layout.idxMapping row = slot)
    (takes : seq.Takes numSpeculativeSteps (layout.turn states result row) next)
    (prompt : Occupies addPromptLen slot (promptLen, seq.prefillLen) promptLens)
    (expanded : layout.Expanded expandedIdxMapping expandedLocalPos)
    (isDraft : index ≤ (layout.turn states result row).drafts.length) :
    (layout.badWordsArgs states buffers promptLens expandedIdxMapping expandedLocalPos state logitsStride).Reads
      (layout.cuNumLogits row + index) (gatheredHistory seq (layout.turn states result row) promptLen index) := by
  have isLogits : layout.numLogits row = 1 + (layout.turn states result row).drafts.length := step.numLogits_eq inBatch
  have bounded := takes.bounded
  obtain ⟨isIdx, isPos⟩ := expanded.reads step.wellFormed inBatch (by rw [step.steps]; omega)
    (show index < layout.numLogits row by omega)
  obtain ⟨inPrefill, isPrompt⟩ := promptLen_occupied prompt
  have someToken : 0 < index → 1 ≤ seq.tokens.length := fun positive =>
    (tracks.sampledStart step inBatch takes (takes.samples positive isDraft)).1
  let args := layout.badWordsArgs states buffers promptLens expandedIdxMapping expandedLocalPos state logitsStride
  have isOutputLen : args.outputLen (layout.cuNumLogits row + index) = seq.tokens.length - promptLen := by
    show states.totalLen (expandedIdxMapping (layout.cuNumLogits row + index)) -
      promptLens (expandedIdxMapping (layout.cuNumLogits row + index)) = _
    rw [isIdx, isSlot, tracks.totalLen, isPrompt]
  have gatheredLength : ((seq.tokens.drop (seq.tokens.length - 1) ++ (layout.turn states result row).drafts).take index).length =
      index := by
    rw [length_take, length_append, length_drop]
    rcases Nat.eq_zero_or_pos index with rfl | positive
    · exact Nat.zero_min _
    · have some := someToken positive
      omega
  constructor
  · rw [gatheredHistory, length_append, gatheredLength, length_drop]
    show _ = args.outputLen _ + expandedLocalPos _
    rw [isOutputLen, isPos]
  · intro position below
    rw [gatheredHistory, length_append, gatheredLength, length_drop] at below
    rw [BadWordsArgs.actual, gatheredHistory]
    show _ = some (if position ≥ args.outputLen (layout.cuNumLogits row + index) then
      buffers.sampledInputs (layout.cuNumLogits row + index - expandedLocalPos (layout.cuNumLogits row + index) +
        (position - args.outputLen (layout.cuNumLogits row + index)))
      else states.allTokenIds (expandedIdxMapping (layout.cuNumLogits row + index) * layout.maxModelLen +
        promptLens (expandedIdxMapping (layout.cuNumLogits row + index)) + position))
    rw [isOutputLen, isPos, isIdx, isSlot, isPrompt, step.stride, Nat.add_sub_cancel]
    by_cases isOutput : position < seq.tokens.length - promptLen
    · rw [if_neg (not_le.mpr isOutput), getElem?_append_left (by rw [length_drop]; exact isOutput),
        getElem?_drop, tracks.tokens _ (by omega), Nat.add_assoc]
    · rw [if_pos (not_lt.mp isOutput), getElem?_append_right (by rw [length_drop]; omega), length_drop,
        getElem?_take_of_lt (by omega)]
      have positive : 0 < index := by omega
      obtain ⟨-, input⟩ := tracks.sampledRow step inBatch isSlot takes (takes.samples positive isDraft)
        (show position - (seq.tokens.length - promptLen) < layout.numLogits row by omega)
      rw [← input, ← getElem?_drop, drop_append_of_le_length (Nat.sub_le _ _)]

end

/-- A runner whose one request has the output nine and the draft five, with some bad words. -/
theorem exists_badWordsStep (badWords : List (List (Fin 8))) (few : badWords.length ≤ maxNumBadWords)
    (short : badWords.flatten.length ≤ maxBadWordsTotalTokens) :
    ∃ (draft : OneDraft) (state : BadWordsState 8) (after : Buffer Nat Bool),
      Occupies BadWordsState.addRequest 0 (some badWords) state ∧
      ((oneRow 2).badWordsArgs draft.states draft.buffers draft.promptLens draft.expandedIdxMapping draft.expandedLocalPos
        state 8).Applied false (oneRow 2) (fun _ => true) after := by
  obtain ⟨draft⟩ := exists_oneDraft
  obtain ⟨state, isState⟩ := BadWordsState.exists_addRequest ⟨fun _ => 0, fun _ => 0, fun _ => 0⟩ 0 few short
  obtain ⟨after, applied⟩ := BadWordsArgs.exists_applied ((oneRow 2).badWordsArgs draft.states draft.buffers
    draft.promptLens draft.expandedIdxMapping draft.expandedLocalPos state 8) false (oneRow 2) fun _ => true
  exact ⟨draft, state, after, .entered isState, applied⟩

end DeepSpark
