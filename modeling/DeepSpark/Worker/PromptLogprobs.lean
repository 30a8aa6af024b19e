import DeepSpark.Lib.Chunks
import DeepSpark.Worker.RequestState
import DeepSpark.Worker.TokenSequence

/-!
The logprobs of prompt tokens: `v1/worker/gpu/sample/prompt_logprob.py`.

Owns the worker and its arrays, the kernel that fetches the target tokens, scoring in tiles, what
one batch returns and leaves in progress, and what it means that rows score tokens.
-/

namespace DeepSpark

open Lib List

structure LogprobsTensors (F : Type) where
  logprobTokenIds : List (List Int)
  logprobs : List (List F)
  selectedTokenRanks : List Nat

namespace LogprobsTensors

variable {F : Type}

def cat (tensors : List (LogprobsTensors F)) : LogprobsTensors F where
  logprobTokenIds := (tensors.map logprobTokenIds).flatten
  logprobs := (tensors.map logprobs).flatten
  selectedTokenRanks := (tensors.map selectedTokenRanks).flatten

def slice (tensors : LogprobsTensors F) (startIdx endIdx width : Nat) : LogprobsTensors F where
  logprobTokenIds := ((tensors.logprobTokenIds.drop startIdx).take (endIdx - startIdx)).map (List.take width)
  logprobs := ((tensors.logprobs.drop startIdx).take (endIdx - startIdx)).map (List.take width)
  selectedTokenRanks := (tensors.selectedTokenRanks.drop startIdx).take (endIdx - startIdx)

end LogprobsTensors

/-- What scores hidden states: the head of the model, which works row by row, `torch.topk`, and the
float arithmetic of `_topk_log_softmax_kernel`. A row of logits is read by token id. -/
structure PromptScoring (H F : Type) where
  vocabSize : Nat
  maxLogprobs : Int
  logitsFn : List H → List (Int → F)
  logits : H → Int → F
  topk : (Int → F) → Nat → List Int
  logSoftmax : (Int → F) → F → F
  maxWithin : maxLogprobs ≤ vocabSize
  rowwise : ∀ hiddenStates, logitsFn hiddenStates = hiddenStates.map logits
  length_topk : ∀ row count, count ≤ vocabSize → (topk row count).length = count

namespace PromptScoring

variable {H F : Type} [LE F] [DecidableLE F] [Bot F] (scoring : PromptScoring H F)

/-- `SamplingParams._verify_args` and `_validate_logprobs` on `prompt_logprobs`. -/
def allows (promptLogprobs : Int) : Bool :=
  let maxLogprobs := if scoring.maxLogprobs = -1 then (scoring.vocabSize : Int) else scoring.maxLogprobs
  let numPromptLogprobs := if promptLogprobs = -1 then (scoring.vocabSize : Int) else promptLogprobs
  (promptLogprobs = -1 || 0 ≤ promptLogprobs) && (promptLogprobs = 0 || numPromptLogprobs ≤ maxLogprobs)

/-- `_ranks_kernel` for one row. -/
def tokenRank (row : Int → F) (token : Int) : Nat :=
  ((List.range (cdiv scoring.vocabSize 8192)).map fun i =>
    (List.range 8192).countP fun lane =>
      row token ≤ if i * 8192 + lane < scoring.vocabSize then row (i * 8192 + lane : Nat) else ⊥).sum

def tokenLogprob (row : Int → F) (token : Int) : F := scoring.logSoftmax row (row token)

/-- `compute_topk_logprobs` without custom token ids. -/
def computeTopkLogprobs (logits : List (Int → F)) (numLogprobs : Int) (sampledTokenIds : List Int) :
    Except PyError (LogprobsTensors F) := do
  pyAssert (0 ≤ numLogprobs) ""
  if (scoring.vocabSize : Int) < numLogprobs then
    .error (.runtimeError "selected index k out of range")
  let logprobTokenIds := List.zipWith
    (fun row token => token :: if 0 < numLogprobs then scoring.topk row numLogprobs.toNat else [])
    logits sampledTokenIds
  .ok
    { logprobTokenIds
      logprobs := List.zipWith (fun row tokens => tokens.map (scoring.tokenLogprob row)) logits logprobTokenIds
      selectedTokenRanks := List.zipWith scoring.tokenRank logits sampledTokenIds }

def chunkSize : Nat := 1024

/-- The number of logprobs asked of `compute_topk_logprobs`: all of a row for -1. -/
def requestedNum (numPromptLogprobs : Int) : Int :=
  if numPromptLogprobs = -1 then scoring.vocabSize else numPromptLogprobs

def computePromptLogprobsWithChunking (promptTokenIds : List Int) (promptHiddenStates : List H)
    (numPromptLogprobs : Int) : Except PyError (LogprobsTensors F) := do
  let tiles ← (List.range (cdiv promptTokenIds.length chunkSize)).mapM fun tile =>
    scoring.computeTopkLogprobs
      (scoring.logitsFn ((promptHiddenStates.drop (tile * chunkSize)).take chunkSize))
      (scoring.requestedNum numPromptLogprobs)
      ((promptTokenIds.drop (tile * chunkSize)).take chunkSize)
  if tiles.isEmpty then .error (.indexError "list index out of range") else .ok (.cat tiles)

end PromptScoring

def BatchLayout.promptTokenIdStores (layout : BatchLayout) (states : DeviceStates) (batchIdx : Nat) :
    List (Store Nat Int) :=
  let reqStateIdx := layout.idxMapping batchIdx
  (blockLoop 0 (layout.queryLen batchIdx) 1024).map fun block =>
    ⟨layout.queryStartLoc batchIdx + block,
      states.allTokenIds (reqStateIdx * layout.maxModelLen + (states.numComputedTokens reqStateIdx + 1 + block))⟩

/-- The fields of `InputBatch` the worker reads; a row schedules as many tokens as its query has. -/
structure PromptBatch where
  layout : BatchLayout
  reqIds : List ReqId
  prefillLen : Nat → Nat
  numComputedPrefillTokens : Nat → Nat

structure PromptLogprobsWorker (F : Type) where
  usesPromptLogprobs : Buffer Nat Bool
  numPromptLogprobs : Buffer Nat Int
  inProgressPromptLogprobs : PyDict ReqId (List (LogprobsTensors F))

namespace PromptLogprobsWorker

variable {H F : Type}

def init : PromptLogprobsWorker F := ⟨fun _ => false, fun _ => 0, .empty⟩

def addRequest (self : PromptLogprobsWorker F) (reqId : ReqId) (reqIdx : Nat) (promptLogprobs : Option Int) :
    PromptLogprobsWorker F where
  usesPromptLogprobs := Function.update self.usesPromptLogprobs reqIdx promptLogprobs.isSome
  numPromptLogprobs := Function.update self.numPromptLogprobs reqIdx (promptLogprobs.getD 0)
  inProgressPromptLogprobs :=
    if promptLogprobs.isSome then self.inProgressPromptLogprobs.set reqId [] else self.inProgressPromptLogprobs

def removeRequest (self : PromptLogprobsWorker F) (reqId : ReqId) : PromptLogprobsWorker F :=
  { self with inProgressPromptLogprobs := self.inProgressPromptLogprobs.erase reqId }

section

variable (self : PromptLogprobsWorker F) (batch : PromptBatch) (promptLens : Buffer Nat Nat)

def needs (i : Nat) : Bool :=
  let reqIdx := batch.layout.idxMapping i
  let includesPrompt := batch.numComputedPrefillTokens i < promptLens reqIdx
  let resumedAfterPrompt := promptLens reqIdx < batch.prefillLen i
  self.usesPromptLogprobs reqIdx && (includesPrompt && !resumedAfterPrompt)

/-- `num_prompt_logprobs[needs_prompt_logprobs]`. -/
def requestedNums : List Int :=
  ((List.range batch.layout.numReqs).filter (self.needs batch promptLens)).map fun i =>
    self.numPromptLogprobs (batch.layout.idxMapping i)

def maxNumPromptLogprobs : Int :=
  if (self.requestedNums batch promptLens).any (· = -1) then -1
  else (self.requestedNums batch promptLens).max?.getD 0

def isPromptChunked (i : Nat) : Bool :=
  batch.numComputedPrefillTokens i + batch.layout.queryLen i < promptLens (batch.layout.idxMapping i)

/-- The rows of a request that are in progress take in those of a step: what is returned, and what
is then in progress. -/
def merge (isPromptChunked : Bool) (logprobs : Option (LogprobsTensors F))
    (promptLogprobsList : List (LogprobsTensors F)) : Option (LogprobsTensors F) × List (LogprobsTensors F) :=
  let promptLogprobsList :=
    if isPromptChunked || !promptLogprobsList.isEmpty then promptLogprobsList ++ logprobs.toList
    else promptLogprobsList
  if isPromptChunked then (none, promptLogprobsList)
  else if promptLogprobsList.isEmpty then (logprobs, promptLogprobsList)
  else (some (.cat promptLogprobsList), [])

/-- The rows of a step that belong to a request; there are none at the last token alone. -/
def ownRows (scored : LogprobsTensors F) (columns i : Nat) : Option (LogprobsTensors F) :=
  let numPromptLogprobs := self.numPromptLogprobs (batch.layout.idxMapping i)
  let startIdx := batch.layout.queryStartLoc i
  let endIdx := batch.layout.queryStartLoc (i + 1)
  let endIdx := if isPromptChunked batch promptLens i then endIdx else endIdx - 1
  let width := if numPromptLogprobs = -1 then columns else numPromptLogprobs.toNat + 1
  if startIdx ≥ endIdx then none else some (scored.slice startIdx endIdx width)

/-- The loop of `compute_prompt_logprobs` for one row: the lists in progress, and what is returned. -/
def visit (scored : LogprobsTensors F) (columns : Nat)
    (loop : PyDict ReqId (List (LogprobsTensors F)) × PyDict ReqId (LogprobsTensors F)) (row : ReqId × Nat) :
    Except PyError (PyDict ReqId (List (LogprobsTensors F)) × PyDict ReqId (LogprobsTensors F)) :=
  let (reqId, i) := row
  if self.needs batch promptLens i then do
    let startIdx := batch.layout.queryStartLoc i
    let endIdx := batch.layout.queryStartLoc (i + 1)
    pyAssert (startIdx < endIdx) s!"start_idx ({startIdx}) >= end_idx ({endIdx})"
    match loop.1.get? reqId with
    | none => .error (.keyError "req_id")
    | some promptLogprobsList =>
      let (logprobs, promptLogprobsList) := merge (isPromptChunked batch promptLens i)
        (self.ownRows batch promptLens scored columns i) promptLogprobsList
      .ok (loop.1.set reqId promptLogprobsList,
        match logprobs with
        | none => loop.2
        | some logprobs => loop.2.set reqId logprobs)
  else .ok loop

end

variable [LE F] [DecidableLE F] [Bot F]

def computePromptLogprobs (self : PromptLogprobsWorker F) (scoring : PromptScoring H F) (hiddenStates : Nat → H)
    (batch : PromptBatch) (promptLogprobsTokenIds : Buffer Nat Int) (promptLens : Buffer Nat Nat) :
    Except PyError (PyDict ReqId (LogprobsTensors F) × PromptLogprobsWorker F) :=
  let rows := List.range batch.layout.numReqs
  let numTokens := batch.layout.queryStartLoc batch.layout.numReqs
  if !rows.any (fun i => self.usesPromptLogprobs (batch.layout.idxMapping i)) then .ok (.empty, self)
  else if !rows.any (self.needs batch promptLens) then .ok (.empty, self)
  else do
    let maxNum := self.maxNumPromptLogprobs batch promptLens
    let scored ← scoring.computePromptLogprobsWithChunking ((List.range numTokens).map promptLogprobsTokenIds)
      ((List.range numTokens).map hiddenStates) maxNum
    let columns := (scoring.requestedNum maxNum).toNat + 1
    let (inProgress, promptLogprobsDict) ← batch.reqIds.zipIdx.foldlM
      (self.visit batch promptLens scored columns) (self.inProgressPromptLogprobs, .empty)
    .ok (promptLogprobsDict, { self with inProgressPromptLogprobs := inProgress })

end PromptLogprobsWorker

/-! ## What rows score -/

namespace PromptScoring

variable {H F : Type} {scoring : PromptScoring H F}

theorem zipWith_logits {α : Type} (value : (Int → F) → Int → α) (hiddenStates : List H) (tokenIds : List Int) :
    List.zipWith value (hiddenStates.map scoring.logits) tokenIds =
      (tokenIds.zip hiddenStates).map fun pair => value (scoring.logits pair.2) pair.1 := by
  rw [zipWith_map_left, zip_eq_zipWith, map_zipWith, zipWith_comm]

theorem zipWith_zipWith_self {α β γ δ : Type} (outer : α → γ → δ) (inner : α → β → γ) (left : List α)
    (right : List β) : List.zipWith outer left (List.zipWith inner left right) =
      List.zipWith (fun row column => outer row (inner row column)) left right := by
  induction left generalizing right with
  | nil => rfl
  | cons row rest ih =>
    cases right with
    | nil => rfl
    | cons column others => simp [ih]

theorem requestedNum_of_allows {promptLogprobs : Int} (allows : scoring.allows promptLogprobs = true) :
    0 ≤ scoring.requestedNum promptLogprobs ∧ scoring.requestedNum promptLogprobs ≤ scoring.vocabSize := by
  have within := scoring.maxWithin
  simp only [PromptScoring.allows, Bool.and_eq_true, Bool.or_eq_true, decide_eq_true_eq] at allows
  rw [requestedNum]
  split_ifs at allows ⊢ <;> omega

variable [LE F] [DecidableLE F] [Bot F]

def ownCount (scoring : PromptScoring H F) (promptLogprobs : Int) : Nat :=
  (scoring.requestedNum promptLogprobs).toNat

/-- The alternatives a request with `count` of them gets: the first of the best tokens of the row,
of which a batch may have asked for more. -/
structure Alternatives (scoring : PromptScoring H F) (count : Nat) (row : Int → F) (others : List Int) : Prop where
  length : others.length = count
  fromTop : ∃ asked, count ≤ asked ∧ asked ≤ scoring.vocabSize ∧ others = (scoring.topk row asked).take count

/-- The tensors have a row for each token, which scores it against its hidden state: the token and
its alternatives, their logprobs, and the rank of the token. -/
structure Scores (scoring : PromptScoring H F) (count : Nat) (tokens : List (Int × H))
    (tensors : LogprobsTensors F) : Prop where
  lengthIds : tensors.logprobTokenIds.length = tokens.length
  lengthLogprobs : tensors.logprobs.length = tokens.length
  lengthRanks : tensors.selectedTokenRanks.length = tokens.length
  row : ∀ (i : Nat) (token : Int) (hidden : H), tokens[i]? = some (token, hidden) →
    ∃ others, scoring.Alternatives count (scoring.logits hidden) others ∧
      tensors.logprobTokenIds[i]? = some (token :: others) ∧
      tensors.logprobs[i]? = some ((token :: others).map (scoring.tokenLogprob (scoring.logits hidden))) ∧
      tensors.selectedTokenRanks[i]? = some (scoring.tokenRank (scoring.logits hidden) token)

theorem Scores.nil (count : Nat) : scoring.Scores count [] (.cat []) where
  lengthIds := rfl
  lengthLogprobs := rfl
  lengthRanks := rfl
  row _ _ _ isToken := by cases isToken

theorem Scores.of_nil {count : Nat} {tokens : List (Int × H)} (scores : scoring.Scores count tokens (.cat [])) :
    tokens = [] :=
  eq_nil_of_length_eq_zero scores.lengthIds.symm

theorem cat_append {F : Type} (front back : List (LogprobsTensors F)) :
    LogprobsTensors.cat (front ++ back) =
      ⟨(LogprobsTensors.cat front).logprobTokenIds ++ (LogprobsTensors.cat back).logprobTokenIds,
        (LogprobsTensors.cat front).logprobs ++ (LogprobsTensors.cat back).logprobs,
        (LogprobsTensors.cat front).selectedTokenRanks ++ (LogprobsTensors.cat back).selectedTokenRanks⟩ := by
  simp [LogprobsTensors.cat]

@[simp] theorem cat_singleton {F : Type} (tensors : LogprobsTensors F) : LogprobsTensors.cat [tensors] = tensors := by
  simp [LogprobsTensors.cat]

theorem Scores.append {count : Nat} {front back : List (Int × H)} {inProgress later : List (LogprobsTensors F)}
    (isFront : scoring.Scores count front (.cat inProgress)) (isBack : scoring.Scores count back (.cat later)) :
    scoring.Scores count (front ++ back) (.cat (inProgress ++ later)) := by
  rw [cat_append]
  refine ⟨?_, ?_, ?_, ?_⟩
  · rw [length_append, isFront.lengthIds, isBack.lengthIds, length_append]
  · rw [length_append, isFront.lengthLogprobs, isBack.lengthLogprobs, length_append]
  · rw [length_append, isFront.lengthRanks, isBack.lengthRanks, length_append]
  · intro i token hidden isToken
    rcases Nat.lt_or_ge i front.length with inFront | inBack
    · rw [getElem?_append_left inFront] at isToken
      rw [getElem?_append_left (isFront.lengthIds ▸ inFront),
        getElem?_append_left (isFront.lengthLogprobs ▸ inFront),
        getElem?_append_left (isFront.lengthRanks ▸ inFront)]
      exact isFront.row i token hidden isToken
    · rw [getElem?_append_right inBack] at isToken
      rw [getElem?_append_right (isFront.lengthIds ▸ inBack), isFront.lengthIds,
        getElem?_append_right (isFront.lengthLogprobs ▸ inBack), isFront.lengthLogprobs,
        getElem?_append_right (isFront.lengthRanks ▸ inBack), isFront.lengthRanks]
      exact isBack.row _ token hidden isToken

/-! ## Scoring a batch -/

/-- The rows of tokens and hidden states, with `asked` alternatives. -/
def scored (scoring : PromptScoring H F) (asked : Nat) (tokens : List (Int × H)) : LogprobsTensors F where
  logprobTokenIds := tokens.map fun pair => pair.1 :: (scoring.topk (scoring.logits pair.2) asked)
  logprobs := tokens.map fun pair =>
    (pair.1 :: (scoring.topk (scoring.logits pair.2) asked)).map (scoring.tokenLogprob (scoring.logits pair.2))
  selectedTokenRanks := tokens.map fun pair => scoring.tokenRank (scoring.logits pair.2) pair.1

theorem computeTopkLogprobs_eq {asked : Nat} (fits : asked ≤ scoring.vocabSize) (hiddenStates : List H)
    (tokenIds : List Int) : scoring.computeTopkLogprobs (scoring.logitsFn hiddenStates) asked tokenIds =
      .ok (scoring.scored asked (tokenIds.zip hiddenStates)) := by
  have nonnegative : (0 : Int) ≤ asked := Int.natCast_nonneg asked
  have fitsInt : ¬ (scoring.vocabSize : Int) < asked := by omega
  have isTop : ∀ row : Int → F,
      (if (0 : Int) < asked then scoring.topk row (asked : Int).toNat else []) = scoring.topk row asked := by
    intro row
    rw [Int.toNat_natCast]
    split
    next => rfl
    next notPositive =>
      have isZero : asked = 0 := by omega
      have isLength := scoring.length_topk row asked fits
      rw [isZero] at isLength ⊢
      exact (eq_nil_of_length_eq_zero isLength).symm
  rw [computeTopkLogprobs, decide_eq_true nonnegative, pyAssert_true, scoring.rowwise, if_neg fitsInt]
  simp only [isTop]
  rw [zipWith_zipWith_self, zipWith_logits, zipWith_logits, zipWith_logits]
  rfl

theorem cat_scored (asked : Nat) (tiles : List (List (Int × H))) :
    LogprobsTensors.cat (tiles.map (scoring.scored asked)) = scoring.scored asked tiles.flatten := by
  simp [LogprobsTensors.cat, scored, map_flatten, Function.comp_def]

theorem computePromptLogprobsWithChunking_eq {tokenIds : List Int} {hiddenStates : List H} {numPromptLogprobs : Int}
    (some_token : 0 < tokenIds.length) (nonnegative : 0 ≤ scoring.requestedNum numPromptLogprobs)
    (fits : scoring.requestedNum numPromptLogprobs ≤ scoring.vocabSize) :
    scoring.computePromptLogprobsWithChunking tokenIds hiddenStates numPromptLogprobs =
      .ok (scoring.scored (scoring.requestedNum numPromptLogprobs).toNat (tokenIds.zip hiddenStates)) := by
  have isAsked : scoring.requestedNum numPromptLogprobs = (scoring.requestedNum numPromptLogprobs).toNat :=
    (Int.toNat_of_nonneg nonnegative).symm
  generalize (scoring.requestedNum numPromptLogprobs).toNat = asked at isAsked
  rw [isAsked] at fits
  have tiles : (List.range (cdiv tokenIds.length chunkSize)).mapM (fun tile =>
      scoring.computeTopkLogprobs (scoring.logitsFn ((hiddenStates.drop (tile * chunkSize)).take chunkSize)) asked
        ((tokenIds.drop (tile * chunkSize)).take chunkSize)) =
      .ok (((List.range (cdiv tokenIds.length chunkSize)).map fun tile =>
        ((tokenIds.zip hiddenStates).drop (tile * chunkSize)).take chunkSize).map (scoring.scored asked)) := by
    rw [map_map]
    apply mapM_ok
    intro tile _
    rw [computeTopkLogprobs_eq (by omega), Function.comp_apply, zip_eq_zipWith, zip_eq_zipWith,
      drop_zipWith, take_zipWith]
  have size_pos : 0 < chunkSize := Nat.succ_pos _
  have some_tile : 0 < cdiv tokenIds.length chunkSize := (lt_cdiv_iff size_pos).mpr (by omega)
  have covers : (tokenIds.zip hiddenStates).length ≤ cdiv tokenIds.length chunkSize * chunkSize := by
    have fitsTiles := le_cdiv_mul tokenIds.length size_pos
    rw [length_zip]
    omega
  have notEmpty : ((List.range (cdiv tokenIds.length chunkSize)).map fun tile =>
      ((tokenIds.zip hiddenStates).drop (tile * chunkSize)).take chunkSize) ≠ [] := by
    apply ne_nil_of_length_pos
    rw [length_map, length_range]
    exact some_tile
  rw [computePromptLogprobsWithChunking, isAsked, tiles]
  show (if _ then _ else _) = _
  rw [cat_scored, flatten_shards, take_of_length_le covers, isEmpty_map, if_neg]
  rwa [List.isEmpty_iff]

/-- The rows of a request are its tokens of the batch, with as many alternatives as it asked for. -/
theorem scores_slice {count asked : Nat} (within : count ≤ asked) (fits : asked ≤ scoring.vocabSize)
    (tokens : List (Int × H)) (startIdx endIdx : Nat) :
    scoring.Scores count ((tokens.drop startIdx).take (endIdx - startIdx))
      ((scoring.scored asked tokens).slice startIdx endIdx (count + 1)) := by
  rw [LogprobsTensors.slice, scored, ← map_drop, ← map_take, ← map_drop, ← map_take,
    ← map_drop, ← map_take, map_map, map_map]
  refine ⟨length_map _, length_map _, length_map _, ?_⟩
  intro i token hidden isToken
  refine ⟨(scoring.topk (scoring.logits hidden) asked).take count, ⟨?_, asked, within, fits, rfl⟩, ?_, ?_, ?_⟩
  · rw [length_take, scoring.length_topk _ _ fits, min_eq_left within]
  · rw [getElem?_map, isToken]
    rfl
  · rw [getElem?_map, isToken]
    show some (List.take _ (List.map _ _)) = _
    rw [← map_take]
    rfl
  · rw [getElem?_map, isToken]
    rfl

end PromptScoring

namespace PromptLogprobsWorker

variable {H F : Type} {self : PromptLogprobsWorker F} {batch : PromptBatch} {promptLens : Buffer Nat Nat}

theorem target_eq {layout : BatchLayout} {states : DeviceStates} {before tokenIds : Buffer Nat Int} {row offset : Nat}
    (wellFormed : layout.WellFormed)
    (fetched : Launched (List.range layout.numReqs) (layout.promptTokenIdStores states) before tokenIds)
    (inBatch : row < layout.numReqs) (below : offset < layout.queryLen row) :
    tokenIds (layout.queryStartLoc row + offset) = states.allTokenIds (layout.idxMapping row * layout.maxModelLen +
      (states.numComputedTokens (layout.idxMapping row) + 1 + offset)) := by
  have owned : Owned (List.range layout.numReqs) (layout.promptTokenIdStores states) layout.ownsToken := by
    refine ⟨?_, fun _ _ _ _ _ => wellFormed.tokenUnique⟩
    intro program inGrid store member
    have inGrid := mem_range.mp inGrid
    have queryEnd := wellFormed.queryEnd inGrid
    obtain ⟨block, inLoop, rfl⟩ := mem_map.mp member
    obtain ⟨-, below⟩ := (mem_blockLoop (by omega)).mp inLoop
    refine ⟨inGrid, Nat.le_add_right _ _, ?_⟩
    rw [queryEnd]
    exact Nat.add_lt_add_left below _
  have member : (⟨layout.queryStartLoc row + offset, states.allTokenIds (layout.idxMapping row * layout.maxModelLen +
      (states.numComputedTokens (layout.idxMapping row) + 1 + offset))⟩ : Store Nat Int) ∈
      layout.promptTokenIdStores states row :=
    mem_map.mpr ⟨offset, (mem_blockLoop (by omega)).mpr ⟨Nat.zero_le _, below⟩, rfl⟩
  apply fetched.holds owned (mem_range.mpr inBatch) member
  intro other stored same
  obtain ⟨block, -, rfl⟩ := mem_map.mp stored
  rw [Nat.add_left_cancel same]

theorem mem_requestedNums {asked : Int} : asked ∈ self.requestedNums batch promptLens ↔
    ∃ i < batch.layout.numReqs, self.needs batch promptLens i = true ∧
      self.numPromptLogprobs (batch.layout.idxMapping i) = asked := by
  simp [requestedNums, mem_map, mem_filter, and_assoc]

theorem maxNum_spec {scoring : PromptScoring H F}
    (allowed : ∀ i < batch.layout.numReqs, self.needs batch promptLens i = true →
      scoring.allows (self.numPromptLogprobs (batch.layout.idxMapping i)) = true)
    (some_row : (List.range batch.layout.numReqs).any (self.needs batch promptLens) = true) :
    0 ≤ scoring.requestedNum (self.maxNumPromptLogprobs batch promptLens) ∧
      scoring.requestedNum (self.maxNumPromptLogprobs batch promptLens) ≤ scoring.vocabSize ∧
      ∀ i < batch.layout.numReqs, self.needs batch promptLens i = true →
        scoring.requestedNum (self.numPromptLogprobs (batch.layout.idxMapping i)) ≤
          scoring.requestedNum (self.maxNumPromptLogprobs batch promptLens) := by
  have bounded : ∀ asked ∈ self.requestedNums batch promptLens,
      0 ≤ scoring.requestedNum asked ∧ scoring.requestedNum asked ≤ scoring.vocabSize := by
    intro asked member
    obtain ⟨i, inBatch, needs, rfl⟩ := mem_requestedNums.mp member
    exact PromptScoring.requestedNum_of_allows (allowed i inBatch needs)
  have isMember : ∀ i < batch.layout.numReqs, self.needs batch promptLens i = true →
      self.numPromptLogprobs (batch.layout.idxMapping i) ∈ self.requestedNums batch promptLens :=
    fun i inBatch needs => mem_requestedNums.mpr ⟨i, inBatch, needs, rfl⟩
  rw [maxNumPromptLogprobs]
  split
  next any_all =>
    have isVocab : scoring.requestedNum (-1) = scoring.vocabSize := if_pos rfl
    rw [isVocab]
    exact ⟨Int.natCast_nonneg _, le_refl _, fun i inBatch needs => (bounded _ (isMember i inBatch needs)).2⟩
  next none_all =>
    have notAll : ∀ asked ∈ self.requestedNums batch promptLens, scoring.requestedNum asked = asked := by
      intro asked member
      rw [PromptScoring.requestedNum, if_neg]
      rintro rfl
      exact none_all (any_eq_true.mpr ⟨-1, member, decide_eq_true rfl⟩)
    obtain ⟨first, inRange, needs⟩ := any_eq_true.mp some_row
    cases isMax : (self.requestedNums batch promptLens).max? with
    | none =>
      have isEmpty := max?_eq_none_iff.mp isMax
      have member := isMember first (mem_range.mp inRange) needs
      rw [isEmpty] at member
      cases member
    | some most =>
      obtain ⟨inNums, above⟩ := max?_eq_some_iff.mp isMax
      refine ⟨(bounded most inNums).1, (bounded most inNums).2, ?_⟩
      intro i inBatch needs
      have member := isMember i inBatch needs
      show _ ≤ scoring.requestedNum most
      rw [notAll _ member, notAll most inNums]
      exact above _ member

/-! ## The loop over the rows -/

section

variable (self batch promptLens) (scored : LogprobsTensors F) (columns : Nat)

def served (i : Nat) (promptLogprobsList : List (LogprobsTensors F)) :
    Option (LogprobsTensors F) × List (LogprobsTensors F) :=
  merge (isPromptChunked batch promptLens i) (self.ownRows batch promptLens scored columns i) promptLogprobsList

/-- A loop over rows serves those that need it, each from its own list, and touches nothing else. -/
structure Visited (worker : PromptLogprobsWorker F) (batch : PromptBatch) (promptLens : Buffer Nat Nat)
    (scored : LogprobsTensors F) (columns : Nat) (rows : List (ReqId × Nat))
    (loop last : PyDict ReqId (List (LogprobsTensors F)) × PyDict ReqId (LogprobsTensors F)) : Prop where
  untouched : ∀ reqId, (∀ row ∈ rows, row.1 = reqId → worker.needs batch promptLens row.2 = false) →
    last.1.get? reqId = loop.1.get? reqId ∧ last.2.get? reqId = loop.2.get? reqId
  served : ∀ row ∈ rows, worker.needs batch promptLens row.2 = true → ∀ promptLogprobsList,
    loop.1.get? row.1 = some promptLogprobsList →
      last.1.get? row.1 = some (worker.served batch promptLens scored columns row.2 promptLogprobsList).2 ∧
        last.2.get? row.1 = (worker.served batch promptLens scored columns row.2 promptLogprobsList).1

variable {self batch promptLens} {scored columns}
  {loop : PyDict ReqId (List (LogprobsTensors F)) × PyDict ReqId (LogprobsTensors F)}

theorem visit_spec {row : ReqId × Nat}
    (some_token : self.needs batch promptLens row.2 = true →
      batch.layout.queryStartLoc row.2 < batch.layout.queryStartLoc (row.2 + 1))
    (listed : self.needs batch promptLens row.2 = true → ∃ list, loop.1.get? row.1 = some list)
    (fresh : loop.2.get? row.1 = none) :
    ∃ next, self.visit batch promptLens scored columns loop row = .ok next ∧
      self.Visited batch promptLens scored columns [row] loop next := by
  obtain ⟨reqId, i⟩ := row
  cases needs : self.needs batch promptLens i with
  | false =>
    refine ⟨loop, ?_, fun _ _ => ⟨rfl, rfl⟩, ?_⟩
    · simp [visit, needs]
    · intro row member rowNeeds
      rw [mem_singleton.mp member, needs] at rowNeeds
      cases rowNeeds
  | true =>
    obtain ⟨list, isList⟩ := listed needs
    generalize isServed : self.served batch promptLens scored columns i list = outcome
    refine ⟨(loop.1.set reqId outcome.2, outcome.1.elim loop.2 (loop.2.set reqId)), ?_, ?_, ?_⟩
    · rw [visit]
      simp only [needs, if_true, some_token needs, decide_true, pyAssert_true, isList]
      rw [PromptLogprobsWorker.served] at isServed
      rw [isServed]
      cases outcome.1 <;> rfl
    · intro other notNeeded
      have differ : other ≠ reqId := by
        rintro rfl
        have isFalse := notNeeded _ (mem_singleton_self _) rfl
        rw [needs] at isFalse
        cases isFalse
      refine ⟨PyDict.get?_set_of_ne _ _ differ, ?_⟩
      cases outcome.1 with
      | none => rfl
      | some logprobs => exact PyDict.get?_set_of_ne _ _ differ
    · intro row member _ promptLogprobsList isOwn
      obtain rfl := mem_singleton.mp member
      rw [isList] at isOwn
      obtain rfl := Option.some.inj isOwn
      rw [isServed]
      refine ⟨PyDict.get?_set_self _ _ _, ?_⟩
      cases outcome.1 with
      | none => exact fresh
      | some logprobs => exact PyDict.get?_set_self _ _ _

theorem visits_spec {rows : List (ReqId × Nat)} (distinct : (rows.map Prod.fst).Nodup)
    (some_token : ∀ row ∈ rows, self.needs batch promptLens row.2 = true →
      batch.layout.queryStartLoc row.2 < batch.layout.queryStartLoc (row.2 + 1))
    (listed : ∀ row ∈ rows, self.needs batch promptLens row.2 = true → ∃ list, loop.1.get? row.1 = some list)
    (fresh : ∀ row ∈ rows, loop.2.get? row.1 = none) :
    ∃ last, rows.foldlM (self.visit batch promptLens scored columns) loop = .ok last ∧
      self.Visited batch promptLens scored columns rows loop last := by
  induction rows generalizing loop with
  | nil => exact ⟨loop, rfl, fun _ _ => ⟨rfl, rfl⟩, fun _ member => absurd member not_mem_nil⟩
  | cons row rest ih =>
    rw [map_cons, nodup_cons] at distinct
    obtain ⟨next, ran, first⟩ : ∃ next, self.visit batch promptLens scored columns loop row = .ok next ∧
        self.Visited batch promptLens scored columns [row] loop next :=
      visit_spec (some_token row mem_cons_self) (listed row mem_cons_self) (fresh row mem_cons_self)
    have isOther : ∀ other ∈ rest, other.1 ≠ row.1 := fun other member same =>
      distinct.1 (mem_map.mpr ⟨other, member, same⟩)
    have kept : ∀ reqId, reqId ≠ row.1 →
        next.1.get? reqId = loop.1.get? reqId ∧ next.2.get? reqId = loop.2.get? reqId := by
      intro reqId differ
      apply first.untouched
      intro other member same
      rw [mem_singleton.mp member] at same
      exact absurd same.symm differ
    obtain ⟨last, ranRest, later⟩ := @ih next distinct.2
      (fun other member => some_token other (mem_cons_of_mem _ member))
      (fun other member otherNeeds => by
        rw [(kept other.1 (isOther other member)).1]
        exact listed other (mem_cons_of_mem _ member) otherNeeds)
      (fun other member => by
        rw [(kept other.1 (isOther other member)).2]
        exact fresh other (mem_cons_of_mem _ member))
    have settled : last.1.get? row.1 = next.1.get? row.1 ∧ last.2.get? row.1 = next.2.get? row.1 :=
      later.untouched row.1 fun other member same => absurd same (isOther other member)
    refine ⟨last, bind_eq_ok.mpr ⟨next, ran, ranRest⟩, ?_, ?_⟩
    · intro reqId notNeeded
      have afterRest := later.untouched reqId fun other member =>
        notNeeded other (mem_cons_of_mem _ member)
      have afterFirst := first.untouched reqId fun other member => by
        rw [mem_singleton.mp member]
        exact notNeeded row mem_cons_self
      exact ⟨afterRest.1.trans afterFirst.1, afterRest.2.trans afterFirst.2⟩
    · intro other member otherNeeds list isList
      rcases mem_cons.mp member with rfl | inRest
      · rw [settled.1, settled.2]
        exact first.served other (mem_singleton_self _) otherNeeds list isList
      · rw [← (kept other.1 (isOther other inRest)).1] at isList
        exact later.served other inRest otherNeeds list isList

end

variable {hiddenStates : Nat → H}

/-! ## What a batch returns -/

section

variable [LE F] [DecidableLE F] [Bot F] {scoring : PromptScoring H F}

section

variable {count : Nat} {front back : List (Int × H)} {own : Option (LogprobsTensors F)}
  {inProgress : List (LogprobsTensors F)} (isFront : scoring.Scores count front (.cat inProgress))
  (isBack : scoring.Scores count back (.cat own.toList))

include isFront isBack

theorem merge_chunked :
    (merge true own inProgress).1 = none ∧
      scoring.Scores count (front ++ back) (.cat (merge true own inProgress).2) :=
  ⟨rfl, isFront.append isBack⟩

theorem merge_last (some_row : 0 < (front ++ back).length) :
    ∃ tensors, (merge false own inProgress).1 = some tensors ∧ scoring.Scores count (front ++ back) tensors := by
  cases inProgress with
  | nil =>
    obtain rfl := isFront.of_nil
    cases own with
    | none =>
      obtain rfl := isBack.of_nil
      cases some_row
    | some tensors =>
      rw [Option.toList_some, PromptScoring.cat_singleton] at isBack
      exact ⟨tensors, rfl, isBack⟩
  | cons first rest => exact ⟨_, rfl, isFront.append isBack⟩

end

theorem span_eq {α β : Type} (left : Nat → α) (right : Nat → β) {start length total : Nat}
    (inRange : start + length ≤ total) :
    ((((List.range total).map left).zip ((List.range total).map right)).drop start).take length =
      (List.range length).map fun offset => (left (start + offset), right (start + offset)) := by
  have isSpan : ((List.range total).drop start).take length = (List.range length).map (start + ·) := by
    apply ext_getElem
    · rw [length_take, length_drop, length_range, length_map, length_range]
      omega
    · intro offset _ _
      simp
  rw [zip_map', ← map_drop, ← map_take, isSpan, map_map]
  rfl

/-- The number of rows of a request: there is none for the token that ends its prompt. -/
def ownLength (batch : PromptBatch) (promptLens : Buffer Nat Nat) (i : Nat) : Nat :=
  if isPromptChunked batch promptLens i then batch.layout.queryLen i else batch.layout.queryLen i - 1

/-- The tokens a request is scored for in a batch, with their hidden states. -/
def ownTokens (batch : PromptBatch) (promptLens : Buffer Nat Nat) (tokenIds : Buffer Nat Int) (hiddenStates : Nat → H)
    (i : Nat) : List (Int × H) :=
  (List.range (ownLength batch promptLens i)).map fun offset =>
    (tokenIds (batch.layout.queryStartLoc i + offset), hiddenStates (batch.layout.queryStartLoc i + offset))

variable {tokenIds : Buffer Nat Int}

theorem ownRows_scores {asked i : Nat}
    (wellFormed : batch.layout.WellFormed) (inBatch : i < batch.layout.numReqs) (fits : asked ≤ scoring.vocabSize)
    (within : scoring.ownCount (self.numPromptLogprobs (batch.layout.idxMapping i)) ≤ asked) :
    scoring.Scores (scoring.ownCount (self.numPromptLogprobs (batch.layout.idxMapping i)))
      (ownTokens batch promptLens tokenIds hiddenStates i)
      (.cat (self.ownRows batch promptLens (scoring.scored asked
        (((List.range (batch.layout.queryStartLoc batch.layout.numReqs)).map tokenIds).zip
          ((List.range (batch.layout.queryStartLoc batch.layout.numReqs)).map hiddenStates)))
        (asked + 1) i).toList) := by
  have inTokens := wellFormed.tokens.le (show i + 1 ≤ batch.layout.numReqs from inBatch) le_rfl
  have queryEnd := wellFormed.queryEnd inBatch
  have isWidth : (if self.numPromptLogprobs (batch.layout.idxMapping i) = -1 then asked + 1
      else (self.numPromptLogprobs (batch.layout.idxMapping i)).toNat + 1) =
      scoring.ownCount (self.numPromptLogprobs (batch.layout.idxMapping i)) + 1 := by
    rw [PromptScoring.ownCount, PromptScoring.requestedNum] at within ⊢
    split_ifs at within ⊢ <;> omega
  have isEnd : (if isPromptChunked batch promptLens i then batch.layout.queryStartLoc (i + 1)
      else batch.layout.queryStartLoc (i + 1) - 1) - batch.layout.queryStartLoc i = ownLength batch promptLens i := by
    rw [ownLength]
    split_ifs <;> omega
  have inSpan : batch.layout.queryStartLoc i + ownLength batch promptLens i ≤
      batch.layout.queryStartLoc batch.layout.numReqs := by
    rw [← isEnd]
    split_ifs <;> omega
  have isSpan := span_eq tokenIds hiddenStates inSpan
  rw [ownRows, ownTokens, isWidth]
  generalize (if isPromptChunked batch promptLens i then batch.layout.queryStartLoc (i + 1)
    else batch.layout.queryStartLoc (i + 1) - 1) = endIdx at isEnd ⊢
  by_cases noRow : batch.layout.queryStartLoc i ≥ endIdx
  · have isZero : ownLength batch promptLens i = 0 := by omega
    rw [isZero, if_pos noRow]
    exact PromptScoring.Scores.nil _
  · have scores := PromptScoring.scores_slice within fits
      (((List.range (batch.layout.queryStartLoc batch.layout.numReqs)).map tokenIds).zip
        ((List.range (batch.layout.queryStartLoc batch.layout.numReqs)).map hiddenStates))
      (batch.layout.queryStartLoc i) endIdx
    rw [isEnd, isSpan] at scores
    rw [if_neg noRow, Option.toList_some, PromptScoring.cat_singleton]
    exact scores

/-- What a batch does: the rows of a request that needs them are merged with those in progress for
it, and for the other requests nothing happens. -/
structure Returns (worker : PromptLogprobsWorker F) (scoring : PromptScoring H F) (batch : PromptBatch)
    (promptLens : Buffer Nat Nat) (tokenIds : Buffer Nat Int) (hiddenStates : Nat → H)
    (returned : PyDict ReqId (LogprobsTensors F)) (next : PromptLogprobsWorker F) : Prop where
  uses : next.usesPromptLogprobs = worker.usesPromptLogprobs
  num : next.numPromptLogprobs = worker.numPromptLogprobs
  untouched : ∀ reqId, (∀ i, batch.reqIds[i]? = some reqId → worker.needs batch promptLens i = false) →
    next.inProgressPromptLogprobs.get? reqId = worker.inProgressPromptLogprobs.get? reqId ∧
      returned.get? reqId = none
  merged : ∀ (i : Nat) (reqId : ReqId) list, batch.reqIds[i]? = some reqId →
    worker.needs batch promptLens i = true → worker.inProgressPromptLogprobs.get? reqId = some list →
    ∃ own, scoring.Scores (scoring.ownCount (worker.numPromptLogprobs (batch.layout.idxMapping i)))
        (ownTokens batch promptLens tokenIds hiddenStates i) (.cat own.toList) ∧
      next.inProgressPromptLogprobs.get? reqId = some (merge (isPromptChunked batch promptLens i) own list).2 ∧
      returned.get? reqId = (merge (isPromptChunked batch promptLens i) own list).1

theorem Returns.nothing (rows : batch.reqIds.length = batch.layout.numReqs)
    (nobody : ∀ i < batch.layout.numReqs, self.needs batch promptLens i = false) :
    self.Returns scoring batch promptLens tokenIds hiddenStates .empty self where
  uses := rfl
  num := rfl
  untouched _ _ := ⟨rfl, rfl⟩
  merged i reqId list isRow needs _ := by
    obtain ⟨inRange, -⟩ := List.getElem?_eq_some_iff.mp isRow
    rw [nobody i (rows ▸ inRange)] at needs
    cases needs

/-- `compute_prompt_logprobs` succeeds if the requests that need rows have a list in progress. -/
theorem computePromptLogprobs_returns
    (wellFormed : batch.layout.WellFormed) (rows : batch.reqIds.length = batch.layout.numReqs)
    (distinct : batch.reqIds.Nodup)
    (allowed : ∀ i < batch.layout.numReqs, self.needs batch promptLens i = true →
      scoring.allows (self.numPromptLogprobs (batch.layout.idxMapping i)) = true)
    (listed : ∀ (i : Nat) (reqId : ReqId), batch.reqIds[i]? = some reqId → self.needs batch promptLens i = true →
      ∃ list, self.inProgressPromptLogprobs.get? reqId = some list) :
    ∃ returned next, self.computePromptLogprobs scoring hiddenStates batch tokenIds promptLens =
        .ok (returned, next) ∧
      self.Returns scoring batch promptLens tokenIds hiddenStates returned next := by
  rw [computePromptLogprobs]
  dsimp only
  split
  next noUse =>
    refine ⟨_, _, rfl, .nothing rows fun i inBatch => ?_⟩
    rw [Bool.not_eq_true', any_eq_false] at noUse
    rw [needs, Bool.eq_false_of_not_eq_true (noUse i (mem_range.mpr inBatch)), Bool.false_and]
  next =>
    split
    next nobody =>
      refine ⟨_, _, rfl, .nothing rows fun i inBatch => ?_⟩
      rw [Bool.not_eq_true', any_eq_false] at nobody
      exact Bool.eq_false_of_not_eq_true (nobody i (mem_range.mpr inBatch))
    next somebody =>
      have some_row : (List.range batch.layout.numReqs).any (self.needs batch promptLens) = true := by
        rwa [Bool.not_eq_true', Bool.not_eq_false] at somebody
      obtain ⟨nonnegative, fits, most⟩ := maxNum_spec allowed some_row
      have some_token : ∀ i < batch.layout.numReqs,
          batch.layout.queryStartLoc i < batch.layout.queryStartLoc (i + 1) := by
        intro i inBatch
        have queryEnd := wellFormed.queryEnd inBatch
        have sampled := wellFormed.sampled i inBatch
        omega
      have not_empty : 0 < ((List.range (batch.layout.queryStartLoc batch.layout.numReqs)).map tokenIds).length := by
        obtain ⟨i, inRange, -⟩ := any_eq_true.mp some_row
        have inBatch := mem_range.mp inRange
        have before := some_token i inBatch
        have inTokens := wellFormed.tokens.le (show i + 1 ≤ batch.layout.numReqs from inBatch) le_rfl
        rw [length_map, length_range]
        omega
      have inBatch : ∀ row ∈ batch.reqIds.zipIdx, row.2 < batch.layout.numReqs := by
        intro row member
        obtain ⟨inRange, -⟩ := List.getElem?_eq_some_iff.mp (mem_zipIdx_iff_getElem?.mp member)
        exact rows ▸ inRange
      rw [PromptScoring.computePromptLogprobsWithChunking_eq not_empty nonnegative fits]
      have distinctRows : (batch.reqIds.zipIdx.map Prod.fst).Nodup := by
        rwa [zipIdx_map_fst]
      obtain ⟨last, ran, visited⟩ := @visits_spec F self batch promptLens
        (scoring.scored (scoring.requestedNum (self.maxNumPromptLogprobs batch promptLens)).toNat _)
        ((scoring.requestedNum (self.maxNumPromptLogprobs batch promptLens)).toNat + 1)
        (self.inProgressPromptLogprobs, .empty) batch.reqIds.zipIdx distinctRows
        (fun row member _ => some_token row.2 (inBatch row member))
        (fun row member needs => listed row.2 row.1 (mem_zipIdx_iff_getElem?.mp member) needs)
        (fun _ _ => rfl)
      refine ⟨last.2, _, bind_eq_ok.mpr ⟨_, rfl, bind_eq_ok.mpr ⟨last, ran, rfl⟩⟩, rfl, rfl, ?_, ?_⟩
      · intro reqId notNeeded
        apply visited.untouched
        intro row member same
        apply notNeeded
        rw [← same]
        exact mem_zipIdx_iff_getElem?.mp member
      · intro i reqId list isRow needs isList
        have member : (reqId, i) ∈ batch.reqIds.zipIdx := mem_zipIdx_iff_getElem?.mpr isRow
        have served := visited.served _ member needs list isList
        refine ⟨_, ?_, served.1, served.2⟩
        apply ownRows_scores wellFormed (inBatch _ member)
        · omega
        · exact Int.toNat_le_toNat (most i (inBatch _ member) needs)

end

end PromptLogprobsWorker

end DeepSpark
