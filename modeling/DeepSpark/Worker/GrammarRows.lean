import DeepSpark.Lib.Chunks
import DeepSpark.Lib.Segments
import DeepSpark.StructuredOutput.BitmaskRows
import DeepSpark.Worker.GrammarMasks

/-!
Where the rows of a bitmask land.

Owns the rows of logits each structured output request is masked on, for both
`apply_grammar_bitmask` functions and every order of the batch.
-/

namespace DeepSpark

open Lib GrammarMaskArgs List

def maskedLogits {α : Type} {width : Nat} (negInf : α) (row : BitmaskRow width) (values : List α) : List α :=
  values.mapIdx fun token value => if row.allows token then value else negInf

theorem maskedLogits_full {α : Type} {width : Nat} (negInf : α) {values : List α} (fits : values.length ≤ width * 32) :
    maskedLogits negInf (BitmaskRow.full width) values = values := by
  apply ext_getElem?
  intro token
  rw [maskedLogits, getElem?_mapIdx]
  by_cases inRow : token < values.length
  · rw [getElem?_eq_getElem inRow, Option.map_some, BitmaskRow.allows_full (inRow.trans_le fits), if_pos rfl]
  · rw [getElem?_eq_none (by omega)]
    rfl

structure GrammarOutput.Lists {width : Nat} (output : GrammarOutput width) (rows : ReqId → List (BitmaskRow width))
    (size : ReqId → Nat) : Prop where
  isBitmask : output.grammarBitmask = output.structuredOutputRequestIds.flatMap rows
  sized : ∀ id ∈ output.structuredOutputRequestIds, (rows id).length = size id

variable {index : Nat}

/-! ## Sorted rows -/

section

variable {width : Nat} {specTokens : ReqId → List TokenId} {output : GrammarOutput width}

def numRows (specTokens : ReqId → List TokenId) (reqId : ReqId) : Nat := 1 + (specTokens reqId).length

theorem sum_numRows (reqIds : List ReqId) :
    (reqIds.map (numRows specTokens)).sum = reqIds.length + (reqIds.map fun id => (specTokens id).length).sum := by
  induction reqIds with
  | nil => rfl
  | cons id rest ih =>
    rw [map_cons, sum_cons, ih, map_cons, sum_cons, length_cons, numRows]
    omega

structure BatchIndices.Found (specTokens : ReqId → List TokenId) (output : GrammarOutput width) (reqIds : List ReqId)
    (state : BatchIndices) : Prop where
  batchIndex : state.batchIndex = reqIds.length
  cumulativeOffset : state.cumulativeOffset = (reqIds.map fun id => (specTokens id).length).sum
  start : ∀ before id behind, reqIds = before ++ id :: behind → id ∈ output.structuredOutputRequestIds →
    state.structOutReqBatchIndices.get? id = some (before.map (numRows specTokens)).sum
  absent : ∀ id, id ∉ reqIds → state.structOutReqBatchIndices.get? id = none

theorem batchIndices_found {reqIds : List ReqId} (distinct : reqIds.Nodup) :
    BatchIndices.Found specTokens output reqIds (reqIds.foldl (BatchIndices.visit specTokens output) {}) := by
  induction reqIds using List.reverseRecOn with
  | nil => exact ⟨rfl, rfl, fun before id behind isSplit => absurd isSplit (by simp), fun _ _ => rfl⟩
  | append_singleton earlier last ih =>
    rw [nodup_append] at distinct
    have found := ih distinct.1
    have isNew : last ∉ earlier := fun member => distinct.2.2 last member last (mem_singleton.mpr rfl) rfl
    rw [foldl_concat]
    set state := earlier.foldl (BatchIndices.visit specTokens output) {} with isState
    have isIndex : state.batchIndex + state.cumulativeOffset = (earlier.map (numRows specTokens)).sum := by
      rw [found.batchIndex, found.cumulativeOffset, sum_numRows]
    have others : ∀ id, id ≠ last → (BatchIndices.visit specTokens output state last).structOutReqBatchIndices.get? id =
        state.structOutReqBatchIndices.get? id := by
      intro id isOther
      rw [BatchIndices.visit]
      split_ifs
      · exact PyDict.get?_set_of_ne _ _ isOther
      · rfl
    refine ⟨?_, ?_, ?_, ?_⟩
    · rw [BatchIndices.visit, found.batchIndex, length_append, length_singleton]
    · rw [BatchIndices.visit, found.cumulativeOffset, map_append, sum_append, map_singleton,
        sum_singleton]
    · intro before id behind isSplit isStructured
      rcases eq_nil_or_concat' behind with rfl | ⟨middle, tail, rfl⟩
      · obtain ⟨rfl, isLast⟩ := append_inj' isSplit rfl
        obtain rfl := singleton_inj.mp isLast
        rw [BatchIndices.visit, isIndex, if_pos isStructured, PyDict.get?_set_self]
      · have isEarlier : earlier = before ++ id :: middle := by
          rw [← cons_append, ← append_assoc] at isSplit
          exact (append_inj' isSplit rfl).1
        have isOther : id ≠ last := by
          rintro rfl
          exact isNew (isEarlier ▸ mem_append_right _ mem_cons_self)
        rw [others id isOther, found.start before id middle isEarlier isStructured]
    · intro id absent
      rw [mem_append, not_or, mem_singleton] at absent
      rw [others id absent.2, found.absent id absent.1]

theorem pyItem_ok {α : Type} {values : List α} {value : α} (isValue : values[index]? = some value) :
    pyItem values index = .ok value := by
  rw [pyItem, isValue]

theorem pySetItem_ok {α : Type} {values : List α} (inRange : index < values.length) (value : α) :
    pySetItem values index value = .ok (values.set index value) := if_pos inRange

theorem place_ok {logitIdx : Nat} {state : SortedRows width} {count : Nat}
    (inSorted : logitIdx + count ≤ state.sortedBitmask.length)
    (inBitmask : state.cumulativeIndex + count ≤ output.grammarBitmask.length) :
    ∃ after, (List.range count).foldlM (SortedRows.place output logitIdx) state = .ok after ∧
      after.cumulativeIndex = state.cumulativeIndex ∧
      after.sortedBitmask.length = state.sortedBitmask.length ∧
      (∀ i < count, after.sortedBitmask[logitIdx + i]? = output.grammarBitmask[state.cumulativeIndex + i]?) ∧
      (∀ place, place < logitIdx ∨ logitIdx + count ≤ place → after.sortedBitmask[place]? = state.sortedBitmask[place]?) ∧
      ∀ place, place ∈ after.outIndices ↔ place ∈ state.outIndices ∨ logitIdx ≤ place ∧ place < logitIdx + count := by
  induction count with
  | zero => exact ⟨state, rfl, rfl, rfl, fun i none => absurd none (Nat.not_lt_zero i), fun _ _ => rfl, fun place => by
      constructor
      · exact Or.inl
      · rintro (isOut | inside)
        · exact isOut
        · omega⟩
  | succ count ih =>
    obtain ⟨middle, ran, sameIndex, sameLength, copied, kept, isOut⟩ := ih (by omega) (by omega)
    have inMask : state.cumulativeIndex + count < output.grammarBitmask.length := by omega
    have inRows : logitIdx + count < middle.sortedBitmask.length := by omega
    refine ⟨{ middle with
      sortedBitmask := middle.sortedBitmask.set (logitIdx + count) output.grammarBitmask[state.cumulativeIndex + count]
      outIndices := middle.outIndices ++ [logitIdx + count] }, ?_, sameIndex, ?_, ?_, ?_, ?_⟩
    · rw [range_succ, foldlM_append]
      refine bind_eq_ok.mpr ⟨middle, ran, ?_⟩
      have placed : SortedRows.place output logitIdx middle count = .ok { middle with
          sortedBitmask := middle.sortedBitmask.set (logitIdx + count) output.grammarBitmask[state.cumulativeIndex + count]
          outIndices := middle.outIndices ++ [logitIdx + count] } := by
        rw [SortedRows.place, sameIndex]
        exact bind_eq_ok.mpr ⟨_, pyItem_ok (getElem?_eq_getElem inMask),
          bind_eq_ok.mpr ⟨_, pySetItem_ok inRows _, rfl⟩⟩
      exact bind_eq_ok.mpr ⟨_, placed, rfl⟩
    · rw [length_set]
      exact sameLength
    · intro i inCount
      rcases Nat.lt_succ_iff_lt_or_eq.mp inCount with earlier | rfl
      · rw [getElem?_set_ne (by omega), copied i earlier]
      · rw [getElem?_set_self inRows, getElem?_eq_getElem inMask]
    · intro place outside
      rw [getElem?_set_ne (by omega), kept place (by omega)]
    · intro place
      rw [mem_append, isOut, mem_singleton, or_assoc]
      apply or_congr_right
      omega

structure SortedRows.Sorted (rows : ReqId → List (BitmaskRow width)) (specTokens : ReqId → List TokenId)
    (reqIds visited : List ReqId) (state : SortedRows width) : Prop where
  cumulativeIndex : state.cumulativeIndex = (visited.map (numRows specTokens)).sum
  length : state.sortedBitmask.length = (reqIds.map (numRows specTokens)).sum
  row : ∀ before id behind, reqIds = before ++ id :: behind → ∀ i < numRows specTokens id,
    state.sortedBitmask[(before.map (numRows specTokens)).sum + i]? =
      if id ∈ visited then (rows id)[i]? else some (BitmaskRow.full width)
  out : ∀ before id behind, reqIds = before ++ id :: behind → ∀ i < numRows specTokens id, id ∈ visited →
    (before.map (numRows specTokens)).sum + i ∈ state.outIndices
  inRange : ∀ place ∈ state.outIndices, place < (reqIds.map (numRows specTokens)).sum

variable {rows : ReqId → List (BitmaskRow width)} {reqIds : List ReqId}

theorem SortedRows.Sorted.visit (lists : output.Lists rows (numRows specTokens)) {visited remaining : List ReqId}
    {reqId : ReqId} (isSplit : output.structuredOutputRequestIds = visited ++ reqId :: remaining)
    {indices : PyDict ReqId Nat}
    (start : ∀ before id behind, reqIds = before ++ id :: behind → id ∈ output.structuredOutputRequestIds →
      indices.get? id = some (before.map (numRows specTokens)).sum)
    (absent : ∀ id, id ∉ reqIds → indices.get? id = none) {state : SortedRows width}
    (sorted : state.Sorted rows specTokens reqIds visited) :
    ∃ after, SortedRows.visit specTokens output indices state reqId = .ok after ∧
      after.Sorted rows specTokens reqIds (visited ++ [reqId]) := by
  have isStructured : reqId ∈ output.structuredOutputRequestIds :=
    isSplit ▸ mem_append_right _ mem_cons_self
  have isIndex : ((visited ++ [reqId]).map (numRows specTokens)).sum = state.cumulativeIndex + numRows specTokens reqId := by
    rw [map_append, sum_append, map_singleton, sum_singleton, sorted.cumulativeIndex]
  by_cases inBatch : reqId ∈ reqIds
  · obtain ⟨before, behind, isBatch⟩ := append_of_mem inBatch
    have isStart := start before reqId behind isBatch isStructured
    have fits : (before.map (numRows specTokens)).sum + numRows specTokens reqId ≤ state.sortedBitmask.length := by
      rw [sorted.length, isBatch]
      exact segment_end_le (numRows specTokens) before behind reqId
    have isStartOfRows : state.cumulativeIndex = (visited.map fun id => (rows id).length).sum := by
      rw [sorted.cumulativeIndex]
      congr 1
      apply map_congr_left
      intro id member
      exact (lists.sized id (isSplit ▸ mem_append_left _ member)).symm
    have isMask : ∀ i < numRows specTokens reqId,
        output.grammarBitmask[state.cumulativeIndex + i]? = (rows reqId)[i]? := by
      intro i inSegment
      rw [lists.isBitmask, isSplit, isStartOfRows]
      exact getElem?_flatMap_place rows visited remaining reqId (lists.sized reqId isStructured ▸ inSegment)
    have inBitmask : state.cumulativeIndex + numRows specTokens reqId ≤ output.grammarBitmask.length := by
      rw [isStartOfRows, lists.isBitmask, length_flatMap, isSplit, ← lists.sized reqId isStructured]
      exact segment_end_le (fun id => (rows id).length) visited remaining reqId
    obtain ⟨placed, ran, sameIndex, sameLength, copied, kept, isOut⟩ := place_ok fits inBitmask
    have isVisit : SortedRows.visit specTokens output indices state reqId =
        .ok { placed with cumulativeIndex := state.cumulativeIndex + numRows specTokens reqId } := by
      rw [SortedRows.visit, isStart, ← sameIndex]
      exact bind_eq_ok.mpr ⟨placed, ran, rfl⟩
    have isPlace : ∀ otherBefore otherBehind, reqIds = otherBefore ++ reqId :: otherBehind →
        (otherBefore.map (numRows specTokens)).sum = (before.map (numRows specTokens)).sum := by
      intro otherBefore otherBehind isOther
      exact Option.some.inj ((start otherBefore reqId otherBehind isOther isStructured).symm.trans isStart)
    have isOutside : ∀ otherBefore id otherBehind, reqIds = otherBefore ++ id :: otherBehind → id ≠ reqId →
        ∀ i < numRows specTokens id, (otherBefore.map (numRows specTokens)).sum + i < (before.map (numRows specTokens)).sum ∨
          (before.map (numRows specTokens)).sum + numRows specTokens reqId ≤
            (otherBefore.map (numRows specTokens)).sum + i := by
      intro otherBefore id otherBehind isOther differ i inSegment
      by_contra inside
      have inOther : (otherBefore.map (numRows specTokens)).sum + i - (before.map (numRows specTokens)).sum <
          numRows specTokens reqId := by omega
      exact differ (segment_unique (isOther.symm.trans isBatch) inSegment inOther (by omega)).1
    refine ⟨_, isVisit, isIndex.symm, sameLength.trans sorted.length, ?_, ?_, ?_⟩
    · intro otherBefore id otherBehind isOtherBatch i inSegment
      by_cases isSame : id = reqId
      · subst isSame
        rw [isPlace otherBefore otherBehind isOtherBatch, copied i inSegment, isMask i inSegment,
          if_pos (mem_append_right _ (mem_singleton.mpr rfl))]
      · rw [kept _ (isOutside otherBefore id otherBehind isOtherBatch isSame i inSegment),
          sorted.row otherBefore id otherBehind isOtherBatch i inSegment]
        simp only [mem_append, mem_singleton, isSame, or_false]
    · intro otherBefore id otherBehind isOtherBatch i inSegment member
      rw [isOut]
      rcases mem_append.mp member with earlier | isLast
      · exact Or.inl (sorted.out otherBefore id otherBehind isOtherBatch i inSegment earlier)
      · obtain rfl := mem_singleton.mp isLast
        rw [isPlace otherBefore otherBehind isOtherBatch]
        exact Or.inr ⟨Nat.le_add_right _ _, Nat.add_lt_add_left inSegment _⟩
    · intro place member
      rcases (isOut place).mp member with earlier | ⟨-, inside⟩
      · exact sorted.inRange place earlier
      · exact inside.trans_le (fits.trans_eq sorted.length)
  · have isVisit : SortedRows.visit specTokens output indices state reqId =
        .ok { state with cumulativeIndex := state.cumulativeIndex + numRows specTokens reqId } := by
      rw [SortedRows.visit, absent reqId inBatch]
      rfl
    refine ⟨_, isVisit, isIndex.symm, sorted.length, ?_, ?_, sorted.inRange⟩
    · intro before id behind isBatch i inSegment
      have isOther : id ≠ reqId := by
        rintro rfl
        exact inBatch (isBatch ▸ mem_append_right _ mem_cons_self)
      rw [sorted.row before id behind isBatch i inSegment]
      simp only [mem_append, mem_singleton, isOther, or_false]
    · intro before id behind isBatch i inSegment member
      have isOther : id ≠ reqId := by
        rintro rfl
        exact inBatch (isBatch ▸ mem_append_right _ mem_cons_self)
      rw [mem_append, mem_singleton, or_iff_left isOther] at member
      exact sorted.out before id behind isBatch i inSegment member

theorem sortBitmask_ok (distinct : reqIds.Nodup) (lists : output.Lists rows (numRows specTokens)) :
    ∃ after, sortBitmask specTokens output reqIds (reqIds.map (numRows specTokens)).sum = .ok after ∧
      after.Sorted rows specTokens reqIds output.structuredOutputRequestIds := by
  have found : BatchIndices.Found specTokens output reqIds _ := batchIndices_found distinct
  set indices := (reqIds.foldl (BatchIndices.visit specTokens output) {}).structOutReqBatchIndices with isIndices
  have loop : ∀ remaining visited (state : SortedRows width), output.structuredOutputRequestIds = visited ++ remaining →
      state.Sorted rows specTokens reqIds visited →
      ∃ after, remaining.foldlM (SortedRows.visit specTokens output indices) state = .ok after ∧
        after.Sorted rows specTokens reqIds output.structuredOutputRequestIds := by
    intro remaining
    induction remaining with
    | nil =>
      intro visited state isSplit sorted
      rw [append_nil] at isSplit
      exact ⟨state, rfl, isSplit ▸ sorted⟩
    | cons id rest ih =>
      intro visited state isSplit sorted
      obtain ⟨next, ranNext, sortedNext⟩ := sorted.visit lists isSplit found.start found.absent
      obtain ⟨after, ran, sortedAfter⟩ := ih (visited ++ [id]) next
        (by rw [isSplit, append_assoc, singleton_append]) sortedNext
      exact ⟨after, bind_eq_ok.mpr ⟨next, ranNext, ran⟩, sortedAfter⟩
  apply loop output.structuredOutputRequestIds [] _ rfl
  refine ⟨rfl, length_replicate, ?_, fun _ _ _ _ _ _ member => (nomatch member), fun _ member => (nomatch member)⟩
  intro before id behind isSplit i inSegment
  have inBatch : (before.map (numRows specTokens)).sum + i < (reqIds.map (numRows specTokens)).sum := by
    rw [isSplit]
    exact (Nat.add_lt_add_left inSegment _).trans_le (segment_end_le (numRows specTokens) before behind id)
  rw [getElem?_replicate, if_pos inBatch, if_neg not_mem_nil]

end

/-! ## The sorted rows on the logits -/

section

variable {α : Type} {width : Nat} (negInf : α)

/-- `xgr.apply_token_bitmask_inplace`: it masks each selected row of the logits by the row of the
bitmask at the same index, or all rows where none are selected. -/
structure MasksRows
    (applyTokenBitmaskInplace : List (List α) → List (BitmaskRow width) → Option (List Nat) → List (List α)) : Prop where
  masked : ∀ logits bitmask indices index values row, logits[index]? = some values → bitmask[index]? = some row →
    (∀ selected, indices = some selected → index ∈ selected) →
      (applyTokenBitmaskInplace logits bitmask indices)[index]? = some (maskedLogits negInf row values)
  kept : ∀ logits bitmask selected index values, logits[index]? = some values → index ∉ selected →
    (applyTokenBitmaskInplace logits bitmask (some selected))[index]? = some values

structure MasksBatch (reqIds structIds : List ReqId) (size : ReqId → Nat) (rows : ReqId → List (BitmaskRow width))
    (logits after : List (List α)) : Prop where
  structured : ∀ before id behind, reqIds = before ++ id :: behind → id ∈ structIds → ∀ i row, (rows id)[i]? = some row →
    ∀ values, logits[(before.map size).sum + i]? = some values →
      after[(before.map size).sum + i]? = some (maskedLogits negInf row values)
  others : ∀ before id behind, reqIds = before ++ id :: behind → id ∉ structIds → ∀ i < size id,
    after[(before.map size).sum + i]? = logits[(before.map size).sum + i]?

variable {negInf}
  {applyTokenBitmaskInplace : List (List α) → List (BitmaskRow width) → Option (List Nat) → List (List α)}
  {specTokens : ReqId → List TokenId} {output : GrammarOutput width} {rows : ReqId → List (BitmaskRow width)}
  {reqIds : List ReqId} {logits : List (List α)}

theorem applyGrammarBitmask_rows (masks : MasksRows negInf applyTokenBitmaskInplace) (distinct : reqIds.Nodup)
    (lists : output.Lists rows (numRows specTokens)) (isLogits : logits.length = (reqIds.map (numRows specTokens)).sum)
    (fits : ∀ values ∈ logits, values.length ≤ width * 32) :
    ∃ after, applyGrammarBitmask specTokens output applyTokenBitmaskInplace reqIds logits = .ok after ∧
      MasksBatch negInf reqIds output.structuredOutputRequestIds (numRows specTokens) rows logits after := by
  obtain ⟨sorted, ran, isSorted⟩ := sortBitmask_ok distinct lists
  rw [← isLogits] at ran
  refine ⟨_, bind_eq_ok.mpr ⟨sorted, ran, rfl⟩, ?_, ?_⟩
  · intro before id behind isSplit isStructured i row isRow values isValues
    have inRows : i < numRows specTokens id := by
      rw [← lists.sized id isStructured]
      exact (List.getElem?_eq_some_iff.mp isRow).1
    have isMask := isSorted.row before id behind isSplit i inRows
    rw [if_pos isStructured, isRow] at isMask
    apply masks.masked _ _ _ _ _ _ isValues isMask
    intro selected isSelected
    split_ifs at isSelected
    exact Option.some.inj isSelected ▸ isSorted.out before id behind isSplit i inRows isStructured
  · intro before id behind isSplit notStructured i inRows
    have inLogits : (before.map (numRows specTokens)).sum + i < logits.length := by
      rw [isLogits, isSplit]
      exact (Nat.add_lt_add_left inRows _).trans_le (segment_end_le (numRows specTokens) before behind id)
    have isMask := isSorted.row before id behind isSplit i inRows
    rw [if_neg notStructured] at isMask
    have isValues := getElem?_eq_getElem inLogits
    have unchanged := maskedLogits_full negInf (fits _ (getElem_mem inLogits))
    rw [isValues]
    split_ifs with skips
    · have all : ∀ selected, (none : Option (List Nat)) = some selected →
          (before.map (numRows specTokens)).sum + i ∈ selected := by
        intro selected isSome
        cases isSome
      rw [masks.masked _ _ _ _ _ _ isValues isMask all, unchanged]
    · by_cases isOut : (before.map (numRows specTokens)).sum + i ∈ sorted.outIndices
      · rw [masks.masked _ _ _ _ _ _ isValues isMask
          (fun selected isSelected => Option.some.inj isSelected ▸ isOut), unchanged]
      · exact masks.kept _ _ _ _ _ isValues isOut

end

variable {id : ReqId}

/-! ## The mapped rows on the logits -/

section

variable {draftTokens : PyDict ReqId (List TokenId)} {numBonusTokens : Nat} {reqIds : List ReqId}

def numLogits (draftTokens : PyDict ReqId (List TokenId)) (numBonusTokens : Nat) (reqId : ReqId) : Nat :=
  if draftTokens.entries.isEmpty then 1 else ((draftTokens.get? reqId).getD []).length + numBonusTokens

theorem getElem?_cuNumLogits {count : Nat} (inBatch : count ≤ reqIds.length) :
    (cuNumLogits draftTokens numBonusTokens reqIds)[count]? =
      some ((reqIds.take count).map (numLogits draftTokens numBonusTokens)).sum := by
  have inRange : count < reqIds.length + 1 := Nat.lt_succ_of_le inBatch
  rw [cuNumLogits]
  unfold numLogits
  split_ifs
  · rw [getElem?_range inRange, map_const', sum_replicate, length_take, Nat.min_eq_left inBatch]
    simp
  · rw [getElem?_map, getElem?_range inRange, Option.map_some, map_take]

theorem extendMapping_ok (distinct : reqIds.Nodup) {before behind : List ReqId}
    (isSplit : reqIds = before ++ id :: behind) (mapping : List Nat) :
    extendMapping reqIds (cuNumLogits draftTokens numBonusTokens reqIds) mapping id =
      .ok (mapping ++ List.range' (before.map (numLogits draftTokens numBonusTokens)).sum
        (numLogits draftTokens numBonusTokens id)) := by
  have notBefore : id ∉ before := by
    intro member
    rw [isSplit, nodup_append] at distinct
    exact distinct.2.2 id member id mem_cons_self rfl
  have isIdx : reqIdToIdx reqIds id = .ok before.length := by
    have isFirst : (before ++ id :: behind).idxOf? id = some before.length := by
      rw [idxOf?_eq_some_iff]
      refine ⟨by rw [length_append, length_cons]; omega, by simp, fun j earlier => ?_⟩
      rw [getElem_append_left earlier]
      exact fun same => notBefore (same ▸ getElem_mem earlier)
    rw [reqIdToIdx, isSplit, isFirst]
  have isStart := @getElem?_cuNumLogits draftTokens numBonusTokens reqIds before.length
    (by rw [isSplit, length_append]; omega)
  have isEnd := @getElem?_cuNumLogits draftTokens numBonusTokens reqIds (before.length + 1)
    (by rw [isSplit, length_append, length_cons]; omega)
  have takeBefore : reqIds.take before.length = before := by rw [isSplit, take_left]
  have takeNext : reqIds.take (before.length + 1) = before ++ [id] := by
    rw [isSplit, take_append, take_of_length_le (Nat.le_succ _), Nat.add_sub_cancel_left, take_succ_cons,
      take_zero]
  rw [takeBefore] at isStart
  rw [takeNext, map_append, sum_append, map_singleton, sum_singleton] at isEnd
  refine bind_eq_ok.mpr ⟨_, isIdx, bind_eq_ok.mpr ⟨_, pyItem_ok isStart, bind_eq_ok.mpr ⟨_, pyItem_ok isEnd, ?_⟩⟩⟩
  rw [Nat.add_sub_cancel_left]
  rfl

variable {width : Nat} {output : GrammarOutput width} {rows : ReqId → List (BitmaskRow width)}

def logitsStart (reqIds : List ReqId) (size : ReqId → Nat) (id : ReqId) : Nat :=
  ((reqIds.takeWhile (· ≠ id)).map size).sum

theorem logitsStart_split (distinct : reqIds.Nodup) {before behind : List ReqId}
    (isSplit : reqIds = before ++ id :: behind) (size : ReqId → Nat) :
    logitsStart reqIds size id = (before.map size).sum := by
  have others : ∀ other ∈ before, decide (other ≠ id) = true := by
    intro other member
    rw [isSplit, nodup_append] at distinct
    exact decide_eq_true (distinct.2.2 other member id mem_cons_self)
  have stops : (id :: behind).takeWhile (fun other => decide (other ≠ id)) = [] := by simp
  rw [logitsStart, isSplit, takeWhile_append_of_pos others, stops, append_nil]

def landings (reqIds : List ReqId) (size : ReqId → Nat) (structIds : List ReqId) : List Nat :=
  structIds.flatMap fun id => List.range' (logitsStart reqIds size id) (size id)

theorem extendMapping_all (distinct : reqIds.Nodup) {structIds : List ReqId} (inBatch : ∀ id ∈ structIds, id ∈ reqIds)
    (mapping : List Nat) :
    structIds.foldlM (extendMapping reqIds (cuNumLogits draftTokens numBonusTokens reqIds)) mapping =
      .ok (mapping ++ landings reqIds (numLogits draftTokens numBonusTokens) structIds) := by
  induction structIds generalizing mapping with
  | nil => exact congrArg Except.ok (append_nil _).symm
  | cons id rest ih =>
    obtain ⟨before, behind, isSplit⟩ := append_of_mem (inBatch id mem_cons_self)
    refine bind_eq_ok.mpr ⟨_, extendMapping_ok distinct isSplit mapping, ?_⟩
    rw [ih fun other member => inBatch other (mem_cons_of_mem _ member), landings, landings,
      flatMap_cons, logitsStart_split distinct isSplit, append_assoc]

theorem length_landings {size : ReqId → Nat} (lists : output.Lists rows size) :
    (landings reqIds size output.structuredOutputRequestIds).length = output.grammarBitmask.length := by
  rw [landings, lists.isBitmask, length_flatMap, length_flatMap]
  congr 1
  apply map_congr_left
  intro id member
  rw [length_range', lists.sized id member]

theorem mapGrammarBitmask_ok (distinct : reqIds.Nodup)
    (inBatch : ∀ id ∈ output.structuredOutputRequestIds, id ∈ reqIds)
    (lists : output.Lists rows (numLogits draftTokens numBonusTokens)) :
    mapGrammarBitmask reqIds (cuNumLogits draftTokens numBonusTokens reqIds) output =
      .ok (if output.structuredOutputRequestIds.isEmpty then none
        else some (landings reqIds (numLogits draftTokens numBonusTokens) output.structuredOutputRequestIds)) := by
  rw [mapGrammarBitmask]
  split_ifs
  · rfl
  · refine bind_eq_ok.mpr ⟨_, extendMapping_all distinct inBatch [], ?_⟩
    rw [nil_append, length_landings lists, beq_self_eq_true, pyAssert_true]
    rfl

/-- Row `i` of the bitmask of a request goes with row `i` of its logits. -/
theorem mem_landings {size : ReqId → Nat} (lists : output.Lists rows size) {place : Nat} {row : BitmaskRow width} :
    (place, row) ∈ (landings reqIds size output.structuredOutputRequestIds).zip output.grammarBitmask ↔
      ∃ id ∈ output.structuredOutputRequestIds, ∃ i, (rows id)[i]? = some row ∧ place = logitsStart reqIds size id + i := by
  have sameLength : ∀ id ∈ output.structuredOutputRequestIds,
      (List.range' (logitsStart reqIds size id) (size id)).length = (rows id).length := fun id member => by
    rw [length_range', lists.sized id member]
  rw [landings, lists.isBitmask, mem_zip_flatMap sameLength]
  refine exists_congr fun id => and_congr_right fun member => ?_
  rw [mem_iff_getElem?]
  refine exists_congr fun i => ?_
  rw [getElem?_zip_eq_some]
  constructor
  · rintro ⟨isPlace, isRow⟩
    have inRows := (List.getElem?_eq_some_iff.mp isRow).1
    rw [getElem?_range' (lists.sized id member ▸ inRows), Nat.one_mul] at isPlace
    exact ⟨isRow, (Option.some.inj isPlace).symm⟩
  · rintro ⟨isRow, isPlace⟩
    have inRows := (List.getElem?_eq_some_iff.mp isRow).1
    rw [getElem?_range' (lists.sized id member ▸ inRows), Nat.one_mul]
    exact ⟨congrArg some isPlace.symm, isRow⟩

end

section

variable {α : Type} {width : Nat} {negInf : α}

namespace GrammarMaskArgs

variable {args : GrammarMaskArgs width}

theorem unpacked_eq (bitmaskIdx blockId lane : Nat) : args.unpacked bitmaskIdx blockId lane =
    (args.bitmask.getD bitmaskIdx (BitmaskRow.full width)).allows (blockId * blockSize + lane) := by
  have isWord : (blockId * blockSize) / 32 + lane / 32 = (blockId * blockSize + lane) / 32 := by
    rw [blockSize]
    omega
  have isBit : lane % 32 = (blockId * blockSize + lane) % 32 := by
    rw [blockSize]
    omega
  rw [unpacked, BitmaskRow.allows, isWord, isBit]

theorem mem_stores {bitmaskIdx blockId : Nat} {store : Store Nat α} :
    store ∈ args.stores negInf (bitmaskIdx, blockId) ↔ ∃ lane < blockSize,
      (args.bitmask.getD bitmaskIdx (BitmaskRow.full width)).allows (blockId * blockSize + lane) = false ∧
        blockId * blockSize + lane < args.vocabSize ∧
        store = ⟨args.logitsIndices.getD bitmaskIdx 0 * args.logitsStride + (blockId * blockSize + lane), negInf⟩ := by
  simp only [stores, mem_filterMap, mem_range, unpacked_eq]
  refine exists_congr fun lane => and_congr_right fun _ => ?_
  split_ifs with stored
  · rw [Bool.and_eq_true, Bool.not_eq_true', decide_eq_true_eq] at stored
    simp only [Option.some.injEq, stored, true_and]
    exact eq_comm
  · rw [Bool.and_eq_true, Bool.not_eq_true', decide_eq_true_eq, not_and] at stored
    constructor
    · intro absurdity
      cases absurdity
    · rintro ⟨notAllowed, inVocab, -⟩
      exact absurd inVocab (stored notAllowed)

end GrammarMaskArgs

/-- The rows of a batch in the buffer of its logits after a mask: row `i` of each structured
output request is masked by row `i` of its bitmask, and the others are as they were. -/
structure MasksBuffer (negInf : α) (reqIds structIds : List ReqId) (size : ReqId → Nat)
    (rows : ReqId → List (BitmaskRow width)) (stride vocabSize : Nat) (logits after : Buffer Nat α) : Prop where
  structured : ∀ before id behind, reqIds = before ++ id :: behind → id ∈ structIds → ∀ i row, (rows id)[i]? = some row →
    ∀ token < vocabSize, after (((before.map size).sum + i) * stride + token) =
      if row.allows token then logits (((before.map size).sum + i) * stride + token) else negInf
  others : ∀ before id behind, reqIds = before ++ id :: behind → id ∉ structIds → ∀ i < size id, ∀ token < vocabSize,
    after (((before.map size).sum + i) * stride + token) = logits (((before.map size).sum + i) * stride + token)

variable {output : GrammarOutput width} {rows : ReqId → List (BitmaskRow width)} {reqIds : List ReqId}
  {size : ReqId → Nat} {stride vocabSize : Nat}

def launchArgs (reqIds : List ReqId) (size : ReqId → Nat) (output : GrammarOutput width) (stride vocabSize : Nat) :
    GrammarMaskArgs width where
  logitsStride := stride
  logitsIndices := landings reqIds size output.structuredOutputRequestIds
  bitmask := output.grammarBitmask
  vocabSize := vocabSize

theorem getElem?_eq_some_getD {β : Type} {values : List β} (inRange : index < values.length) (default : β) :
    values[index]? = some (values.getD index default) := by
  rw [getD_eq_getElem?_getD, getElem?_eq_getElem inRange, Option.getD_some]

/-- A store of the kernel is to a token that a row of the bitmask does not allow, on its row of
logits. -/
theorem exists_of_mem_stores (lists : output.Lists rows size) {program : Nat × Nat}
    (inGrid : program ∈ (launchArgs reqIds size output stride vocabSize).grid) {store : Store Nat α}
    (stored : store ∈ (launchArgs reqIds size output stride vocabSize).stores negInf program) :
    store.value = negInf ∧ ∃ id ∈ output.structuredOutputRequestIds, ∃ i row token, (rows id)[i]? = some row ∧
      row.allows token = false ∧ token < vocabSize ∧
        store.address = (logitsStart reqIds size id + i) * stride + token := by
  obtain ⟨bitmaskIdx, blockId⟩ := program
  obtain ⟨inMasks, -⟩ := mem_product.mp inGrid
  replace inMasks : bitmaskIdx < output.grammarBitmask.length := mem_range.mp inMasks
  obtain ⟨lane, -, notAllowed, inVocab, rfl⟩ := mem_stores.mp stored
  refine ⟨rfl, ?_⟩
  have inLandings : bitmaskIdx < (landings reqIds size output.structuredOutputRequestIds).length := by
    rwa [length_landings lists]
  have isPair : ((landings reqIds size output.structuredOutputRequestIds).getD bitmaskIdx 0,
      output.grammarBitmask.getD bitmaskIdx (BitmaskRow.full width)) ∈
      (landings reqIds size output.structuredOutputRequestIds).zip output.grammarBitmask := by
    rw [mem_iff_getElem?]
    refine ⟨bitmaskIdx, getElem?_zip_eq_some.mpr ⟨?_, ?_⟩⟩
    · exact getElem?_eq_some_getD inLandings 0
    · exact getElem?_eq_some_getD inMasks (BitmaskRow.full width)
  obtain ⟨id, member, i, isRow, isPlace⟩ := (mem_landings lists).mp isPair
  exact ⟨id, member, i, _, _, isRow, notAllowed, inVocab, congrArg (· * stride + _) isPlace⟩

theorem exists_store (lists : output.Lists rows size) (isStructured : id ∈ output.structuredOutputRequestIds)
    {i : Nat} {row : BitmaskRow width} (isRow : (rows id)[i]? = some row) {token : Nat} (inVocab : token < vocabSize)
    (notAllowed : row.allows token = false) :
    ∃ program ∈ (launchArgs reqIds size output stride vocabSize).grid,
      (⟨(logitsStart reqIds size id + i) * stride + token, negInf⟩ : Store Nat α) ∈
        (launchArgs reqIds size output stride vocabSize).stores negInf program := by
  have isPair : (logitsStart reqIds size id + i, row) ∈
      (landings reqIds size output.structuredOutputRequestIds).zip output.grammarBitmask :=
    (mem_landings lists).mpr ⟨id, isStructured, i, isRow, rfl⟩
  obtain ⟨bitmaskIdx, found⟩ := mem_iff_getElem?.mp isPair
  obtain ⟨isPlace, isMask⟩ := getElem?_zip_eq_some.mp found
  have isToken : token / blockSize * blockSize + token % blockSize = token :=
    Nat.div_add_mod' token blockSize
  have inBlocks : token / blockSize < cdiv vocabSize blockSize :=
    (lt_cdiv_iff (by decide)).mpr (by omega)
  refine ⟨(bitmaskIdx, token / blockSize), mem_product.mpr
    ⟨mem_range.mpr (List.getElem?_eq_some_iff.mp isMask).1, mem_range.mpr inBlocks⟩,
    mem_stores.mpr ⟨token % blockSize, Nat.mod_lt _ (by decide), ?_⟩⟩
  rw [isToken]
  refine ⟨?_, inVocab, ?_⟩
  · show (output.grammarBitmask.getD bitmaskIdx (BitmaskRow.full width)).allows token = false
    rw [getD_eq_getElem?_getD, isMask, Option.getD_some]
    exact notAllowed
  · show _ = Store.mk ((landings reqIds size output.structuredOutputRequestIds).getD bitmaskIdx 0 * stride + token) negInf
    rw [getD_eq_getElem?_getD, isPlace, Option.getD_some]

theorem launched_masks (distinct : reqIds.Nodup) (lists : output.Lists rows size)
    (inBatch : ∀ id ∈ output.structuredOutputRequestIds, id ∈ reqIds) (fits : vocabSize ≤ stride)
    {logits after : Buffer Nat α}
    (launched : Launched (launchArgs reqIds size output stride vocabSize).grid
      ((launchArgs reqIds size output stride vocabSize).stores negInf) logits after) :
    MasksBuffer negInf reqIds output.structuredOutputRequestIds size rows stride vocabSize logits after := by
  -- a store to a row of logits is of the request that owns the row
  have owner : ∀ before id behind, reqIds = before ++ id :: behind → ∀ i < size id, ∀ token < vocabSize,
      ∀ program ∈ (launchArgs reqIds size output stride vocabSize).grid,
      ∀ store ∈ (launchArgs reqIds size output stride vocabSize).stores negInf program,
      store.address = ((before.map size).sum + i) * stride + token → id ∈ output.structuredOutputRequestIds ∧
        ∃ row, (rows id)[i]? = some row ∧ row.allows token = false := by
    intro before id behind isSplit i inSegment token inVocab program inGrid store stored isAddress
    obtain ⟨-, other, member, otherRow, row, otherToken, isRow, notAllowed, otherInVocab, isOther⟩ :=
      exists_of_mem_stores lists inGrid stored
    obtain ⟨otherBefore, otherBehind, otherSplit⟩ := append_of_mem (inBatch other member)
    rw [isAddress, logitsStart_split distinct otherSplit] at isOther
    obtain ⟨samePlace, rfl⟩ := flat_inj (inVocab.trans_le fits) (otherInVocab.trans_le fits) isOther
    have inRows := (List.getElem?_eq_some_iff.mp isRow).1
    rw [lists.sized other member] at inRows
    obtain ⟨rfl, rfl⟩ := segment_unique (isSplit.symm.trans otherSplit) inSegment inRows samePlace
    exact ⟨member, row, isRow, notAllowed⟩
  constructor
  · intro before id behind isSplit isStructured i row isRow token inVocab
    have inSegment : i < size id := lists.sized id isStructured ▸ (List.getElem?_eq_some_iff.mp isRow).1
    cases allowed : row.allows token with
    | true =>
      rw [if_pos rfl]
      apply launched.untouched
      intro program inGrid store stored isAddress
      obtain ⟨-, other, isOther, notAllowed⟩ :=
        owner before id behind isSplit i inSegment token inVocab program inGrid store stored isAddress
      rw [isRow] at isOther
      cases isOther
      rw [allowed] at notAllowed
      cases notAllowed
    | false =>
      obtain ⟨program, inGrid, stored⟩ : ∃ program ∈ (launchArgs reqIds size output stride vocabSize).grid,
          (⟨(logitsStart reqIds size id + i) * stride + token, negInf⟩ : Store Nat α) ∈
            (launchArgs reqIds size output stride vocabSize).stores negInf program :=
        exists_store lists isStructured isRow inVocab allowed
      rw [logitsStart_split distinct isSplit] at stored
      refine (launched.agreed inGrid stored fun other otherInGrid last otherStored _ => ?_).trans ?_
      · exact (exists_of_mem_stores lists otherInGrid otherStored).1
      · rfl
  · intro before id behind isSplit notStructured i inSegment token inVocab
    apply launched.untouched
    intro program inGrid store stored isAddress
    exact notStructured
      (owner before id behind isSplit i inSegment token inVocab program inGrid store stored isAddress).1

end

end DeepSpark
