import DeepSpark.Lib.Argmax
import DeepSpark.Worker.NgramProposer

/-!
The n-gram proposer on the device: `NgramGPUKernel` of `v1/spec_decode/ngram_proposer_gpu.py`.

Owns the kernel for one row of the batch, which searches the windows of every n-gram length, and
when it proposes what the search on the host does.
-/

namespace DeepSpark

open Lib

variable {k maxN minN : Nat}

namespace NgramGPUKernel

/-! ## The kernel, for one row -/

variable (tokenIds : List Int) (seqLength : Nat)

/-- A window of an n-gram length matches the last tokens and leaves room for a draft token. -/
def finalMatches (ngramLen position : Nat) : Bool :=
  let suffix := fun j : Nat => tokenIds[((seqLength : Int) - ngramLen + j).toNat]?
  let isMatch := (List.range ngramLen).all fun j => decide (tokenIds[position + j]? = suffix j)
  let validMask : Bool := (position : Int) ≤ (seqLength : Int) - ngramLen - 1
  isMatch && validMask

def firstMatchPosition (ngramLen : Nat) : Except PyError Int :=
  let maxSeqLen := tokenIds.length
  -- `unfold`
  if maxSeqLen < ngramLen then
    .error (.runtimeError s!"maximum size for tensor at dimension 1 is {maxSeqLen} but size is {ngramLen}")
  else
    let numWindows := maxSeqLen - ngramLen + 1
    let found := argmaxBelow (fun position => (finalMatches tokenIds seqLength ngramLen position).toNat) numWindows
    .ok (if finalMatches tokenIds seqLength ngramLen found then (found : Int) else -1)

def findFirstAndExtractAllNParallel (minNgramLen maxNgramLen numDraftTokens : Nat) : Except PyError (List Int) := do
  let maxSeqLen := tokenIds.length
  let numNgramSizes := maxNgramLen - minNgramLen + 1
  let firstMatchPositions ← (List.range numNgramSizes).mapM fun i =>
    firstMatchPosition tokenIds seqLength (minNgramLen + i)
  -- the first match of the flipped lengths is the longest
  let flipped := argmaxBelow
    (fun i => if 0 ≤ firstMatchPositions.getD (numNgramSizes - 1 - i) (-1) then 1 else 0) numNgramSizes
  let bestNgramIdx := numNgramSizes - 1 - flipped
  let bestMatchPos := firstMatchPositions.getD bestNgramIdx (-1)
  let bestNgramLength := minNgramLen + bestNgramIdx
  let draftStart : Int := if 0 ≤ bestMatchPos then bestMatchPos + bestNgramLength else 0
  let tokensAvailable := (seqLength : Int) - draftStart
  return (List.range numDraftTokens).map fun i : Nat =>
    let draftIndex := min (max (draftStart + i) 0) ((maxSeqLen : Int) - 1)
    let drafted := if (i : Int) < tokensAvailable then tokenIds.getD draftIndex.toNat 0 else -1
    if 0 ≤ bestMatchPos then drafted else -1

/-- `forward`: the draft tokens and the number of leading valid ones. -/
def forward (combinedMask : Bool) (minN maxN k : Nat) : Except PyError (List Int × Nat) := do
  let results ← findFirstAndExtractAllNParallel tokenIds seqLength minN maxN k
  let draftTokens := results.map fun token => if combinedMask then token else -1
  let cumValid := fun j => (draftTokens.take (j + 1)).countP (· ≠ -1)
  return (draftTokens, ((List.range k).filter fun j => cumValid j = j + 1).length)

/-! ## The windows -/

/-- A row of the token buffer: the tokens of a sequence, and what is left behind them. -/
def row (tokens : List Nat) (padding : List Int) : List Int := tokens.map (↑) ++ padding

variable {tokens : List Nat} {padding : List Int}

theorem getElem?_row {index : Nat} (inTokens : index < tokens.length) :
    (row tokens padding)[index]? = some ((tokens[index] : Nat) : Int) := by
  rw [row, List.getElem?_append_left (by rwa [List.length_map]), List.getElem?_map, List.getElem?_eq_getElem inTokens]
  rfl

theorem finalMatches_iff {ngramLen position : Nat} :
    finalMatches (row tokens padding) tokens.length ngramLen position = true ↔ Occurs tokens ngramLen position := by
  rw [finalMatches]
  simp only [Bool.and_eq_true, List.all_eq_true, List.mem_range, decide_eq_true_eq, Occurs]
  have isWithin : (position : Int) ≤ (tokens.length : Int) - ngramLen - 1 ↔ position + ngramLen < tokens.length := by
    omega
  rw [isWithin, and_comm]
  apply and_congr_right
  intro within
  apply forall_congr'
  intro j
  apply imp_congr_right
  intro below
  have isIndex : ((tokens.length : Int) - ngramLen + j).toNat = tokens.length - ngramLen + j := by omega
  have inWindow : position + j < tokens.length := by omega
  have inSuffix : tokens.length - ngramLen + j < tokens.length := by omega
  rw [isIndex, getElem?_row inWindow, getElem?_row inSuffix, List.getElem?_eq_getElem inWindow,
    List.getElem?_eq_getElem inSuffix, Option.some.injEq, Option.some.injEq, Int.ofNat_inj]

theorem firstMatchPosition_row {ngramLen : Nat} (fits : ngramLen ≤ (row tokens padding).length) :
    ∃ found, firstMatchPosition (row tokens padding) tokens.length ngramLen = .ok found ∧
      (found = -1 ∧ (∀ position, ¬ Occurs tokens ngramLen position) ∨
        ∃ position : Nat, found = position ∧ Occurs tokens ngramLen position ∧
          ∀ other < position, ¬ Occurs tokens ngramLen other) := by
  refine ⟨_, if_neg fits.not_gt, ?_⟩
  set flags := fun position => (finalMatches (row tokens padding) tokens.length ngramLen position).toNat with isFlags
  obtain ⟨-, isMax, isFirst⟩ := argmaxBelow_isFirst flags (Nat.succ_pos ((row tokens padding).length - ngramLen))
  set found := argmaxBelow flags ((row tokens padding).length - ngramLen + 1) with isFound
  simp only [isFlags] at isMax isFirst
  by_cases isMatch : finalMatches (row tokens padding) tokens.length ngramLen found = true
  · rw [if_pos isMatch]
    refine Or.inr ⟨found, rfl, finalMatches_iff.mp isMatch, fun other earlier occurs => ?_⟩
    have before := isFirst other earlier
    rw [isMatch, finalMatches_iff.mpr occurs] at before
    exact absurd before (Nat.lt_irrefl _)
  · rw [if_neg isMatch]
    refine Or.inl ⟨rfl, fun position occurs => ?_⟩
    have within := occurs.1
    have inRow : tokens.length ≤ (row tokens padding).length := by
      rw [row, List.length_append, List.length_map]
      exact Nat.le_add_right _ _
    have above := isMax position (by omega)
    rw [finalMatches_iff.mpr occurs, Bool.eq_false_iff.mpr isMatch] at above
    exact absurd above (by decide)

/-! ## The drafts -/

def padded (k : Nat) (drafts : List Nat) : List Int :=
  (List.range k).map fun i : Nat => match drafts[i]? with
    | some token => (token : Int)
    | none => -1

theorem getElem?_padded {drafts : List Nat} {i : Nat} (below : i < k) :
    (padded k drafts)[i]? = some (match drafts[i]? with
      | some token => (token : Int)
      | none => -1) := by
  rw [padded, List.getElem?_map, List.getElem?_range below]
  rfl

theorem valid_padded_iff {drafts : List Nat} {j : Nat} (below : j < k) :
    ((padded k drafts).take (j + 1)).countP (· ≠ -1) = j + 1 ↔ j < drafts.length := by
  have isLength : ((padded k drafts).take (j + 1)).length = j + 1 := by
    rw [List.length_take, padded, List.length_map, List.length_range]
    exact Nat.min_eq_left below
  have isAll : ((padded k drafts).take (j + 1)).countP (· ≠ -1) = ((padded k drafts).take (j + 1)).length ↔
      ∀ token ∈ (padded k drafts).take (j + 1), decide (token ≠ -1) = true := List.countP_eq_length
  rw [isLength] at isAll
  rw [isAll]
  constructor
  · intro allValid
    by_contra beyond
    have isToken : ((padded k drafts).take (j + 1))[j]? = some (-1) := by
      rw [List.getElem?_take_of_lt (Nat.lt_succ_self j), getElem?_padded below,
        List.getElem?_eq_none (Nat.not_lt.mp beyond)]
    exact of_decide_eq_true (allValid _ (List.mem_of_getElem? isToken)) rfl
  · intro inDrafts token member
    obtain ⟨i, isToken⟩ := List.mem_iff_getElem?.mp member
    have inTake : i < j + 1 := by
      rw [← isLength]
      exact (List.getElem?_eq_some_iff.mp isToken).1
    have isDraft : i < drafts.length := by omega
    rw [List.getElem?_take_of_lt inTake, getElem?_padded (show i < k by omega),
      List.getElem?_eq_getElem isDraft] at isToken
    have isCast : token = ((drafts[i] : Nat) : Int) := (Option.some.inj isToken).symm
    rw [isCast]
    exact decide_eq_true (by omega)

theorem take_padded {drafts : List Nat} (fits : drafts.length ≤ k) :
    (padded k drafts).take ((List.range k).filter fun j =>
      ((padded k drafts).take (j + 1)).countP (· ≠ -1) = j + 1).length = drafts.map (↑) := by
  have isFilter : (List.range k).filter (fun j => ((padded k drafts).take (j + 1)).countP (· ≠ -1) = j + 1) =
      List.range drafts.length := by
    have isBelow : (List.range k).filter (fun j => ((padded k drafts).take (j + 1)).countP (· ≠ -1) = j + 1) =
        (List.range k).filter (fun j => decide (j < drafts.length)) :=
      List.filter_congr fun j inRange => decide_eq_decide.mpr (valid_padded_iff (List.mem_range.mp inRange))
    rw [isBelow]
    obtain ⟨more, rfl⟩ := Nat.exists_eq_add_of_le fits
    rw [List.range_add, List.filter_append, List.filter_eq_self.mpr, List.filter_eq_nil_iff.mpr, List.append_nil]
    · intro j member
      obtain ⟨i, -, rfl⟩ := List.mem_map.mp member
      simp
    · intro j member
      exact decide_eq_true (List.mem_range.mp member)
  rw [isFilter, List.length_range]
  apply List.ext_getElem?
  intro i
  by_cases inDrafts : i < drafts.length
  · rw [List.getElem?_take_of_lt inDrafts, getElem?_padded (by omega), List.getElem?_map,
      List.getElem?_eq_getElem inDrafts]
    rfl
  · rw [List.getElem?_take_eq_none (Nat.not_lt.mp inDrafts), List.getElem?_map,
      List.getElem?_eq_none (Nat.not_lt.mp inDrafts)]
    rfl

section

variable (ordered : minN ≤ maxN) (fits : maxN ≤ (row tokens padding).length)

include ordered fits

private theorem firstMatches :
    ∃ found : Nat → Int,
      (List.range (maxN - minN + 1)).mapM (fun i => firstMatchPosition (row tokens padding) tokens.length (minN + i)) =
        .ok ((List.range (maxN - minN + 1)).map found) ∧
      ∀ i < maxN - minN + 1, found i = -1 ∧ (∀ position, ¬ Occurs tokens (minN + i) position) ∨
        ∃ position : Nat, found i = position ∧ Occurs tokens (minN + i) position ∧
          ∀ other < position, ¬ Occurs tokens (minN + i) other := by
  have each : ∀ i, ∃ found : Int, i < maxN - minN + 1 →
      firstMatchPosition (row tokens padding) tokens.length (minN + i) = .ok found ∧
      (found = -1 ∧ (∀ position, ¬ Occurs tokens (minN + i) position) ∨
        ∃ position : Nat, found = position ∧ Occurs tokens (minN + i) position ∧
          ∀ other < position, ¬ Occurs tokens (minN + i) other) := by
    intro i
    by_cases inRange : i < maxN - minN + 1
    · obtain ⟨found, isFound, isFirst⟩ := @firstMatchPosition_row tokens padding (minN + i) (by omega)
      exact ⟨found, fun _ => ⟨isFound, isFirst⟩⟩
    · exact ⟨0, fun below => absurd below inRange⟩
  choose found isFound using each
  exact ⟨found, mapM_ok fun i member => (isFound i (List.mem_range.mp member)).1,
    fun i below => (isFound i below).2⟩

theorem extracted {drafts : List Nat} (isProposal : Proposal tokens minN maxN k drafts) :
    findFirstAndExtractAllNParallel (row tokens padding) tokens.length minN maxN k = .ok (padded k drafts) := by
  obtain ⟨found, isFound, occurrences⟩ := firstMatches ordered fits
  have isEntry : ∀ i < maxN - minN + 1, ((List.range (maxN - minN + 1)).map found).getD i (-1) = found i := by
    intro i below
    rw [List.getD_eq_getElem?_getD, List.getElem?_map, List.getElem?_range below]
    rfl
  rw [findFirstAndExtractAllNParallel]
  rw [isFound]
  show Except.ok _ = Except.ok _
  congr 1
  set flags : Nat → Nat := fun i =>
    if 0 ≤ ((List.range (maxN - minN + 1)).map found).getD (maxN - minN + 1 - 1 - i) (-1) then 1 else 0 with isFlags
  have isFlag : ∀ i < maxN - minN + 1, flags i = if 0 ≤ found (maxN - minN - i) then 1 else 0 := by
    intro i below
    rw [isFlags]
    dsimp only
    rw [Nat.add_sub_cancel, isEntry _ (by omega)]
  rcases isProposal with ⟨length, position, isLongest, isDrafts, -⟩ | ⟨none, isDrafts⟩
  · have atLeast := isLongest.atLeast
    have atMost := isLongest.atMost
    have isPosition : found (length - minN) = position := by
      rcases occurrences (length - minN) (by omega) with ⟨-, absent⟩ | ⟨other, isOther, occurs, leftmost⟩
      · rw [Nat.add_sub_cancel' atLeast] at absent
        exact absurd isLongest.occurs (absent position)
      · rw [Nat.add_sub_cancel' atLeast] at occurs leftmost
        rcases Nat.lt_trichotomy other position with before | rfl | behind
        · exact absurd occurs (isLongest.leftmost other before)
        · exact isOther
        · exact absurd isLongest.occurs (leftmost position behind)
    have isBest : IsFirstArgmax flags (maxN - minN + 1) (maxN - length) := by
      have isOne : flags (maxN - length) = 1 := by
        rw [isFlag _ (by omega), show maxN - minN - (maxN - length) = length - minN by omega, isPosition]
        exact if_pos (Int.natCast_nonneg position)
      refine ⟨by omega, fun other below => ?_, fun earlier below => ?_⟩
      · rw [isOne, isFlag _ below]
        split <;> decide
      · rw [isOne, isFlag _ (by omega)]
        rcases occurrences (maxN - minN - earlier) (by omega) with ⟨isNone, -⟩ | ⟨other, -, occurs, -⟩
        · rw [isNone]
          decide
        · exact absurd occurs (isLongest.longest _ other (by omega) (by omega))
    have isFlipped : argmaxBelow flags (maxN - minN + 1) = maxN - length :=
      (argmaxBelow_isFirst flags (Nat.succ_pos _)).unique isBest
    have isIndex : maxN - minN + 1 - 1 - (maxN - length) = length - minN := by omega
    rw [isFlipped, isIndex, isEntry _ (by omega), isPosition]
    apply List.map_congr_left
    intro i inRange
    have below := List.mem_range.mp inRange
    rw [if_pos (Int.natCast_nonneg position), if_pos (Int.natCast_nonneg position), isDrafts,
      List.getElem?_take_of_lt below, List.getElem?_drop, Nat.add_sub_cancel' atLeast]
    have inRow : tokens.length ≤ (row tokens padding).length := by
      rw [row, List.length_append, List.length_map]
      exact Nat.le_add_right _ _
    by_cases available : position + length + i < tokens.length
    · rw [if_pos (by omega), List.getElem?_eq_getElem available]
      have isDraftIndex : (min (max ((position : Int) + length + i) 0) ((row tokens padding).length - 1)).toNat =
          position + length + i := by omega
      rw [show ((length : Nat) : Int) = length from rfl, isDraftIndex, List.getD_eq_getElem?_getD,
        getElem?_row available]
      rfl
    · rw [if_neg (by omega), List.getElem?_eq_none (Nat.not_lt.mp available)]
  · have isNone : ∀ i < maxN - minN + 1, found i = -1 := by
      intro i below
      rcases occurrences i below with ⟨isNone, -⟩ | ⟨position, -, occurs, -⟩
      · exact isNone
      · exact absurd occurs (none _ position (by omega) (by omega))
    rw [isEntry _ (by omega), isNone _ (by omega), isDrafts]
    apply List.map_congr_left
    intro i _
    rw [if_neg (show ¬ (0 : Int) ≤ -1 by decide)]
    rfl

/-- Where every n-gram fits the row, the valid prefix of the kernel is the proposal. -/
theorem forward_proposal {drafts : List Nat} (isProposal : Proposal tokens minN maxN k drafts) :
    ∃ draftTokens numValid,
      forward (row tokens padding) tokens.length (decide (minN ≤ tokens.length)) minN maxN k = .ok (draftTokens, numValid) ∧
        draftTokens.take numValid = drafts.map (↑) := by
  have isMasked : (padded k drafts).map (fun token => if decide (minN ≤ tokens.length) then token else -1) =
      padded k drafts := by
    by_cases longEnough : minN ≤ tokens.length
    · simp [longEnough]
    · have isDrafts : drafts = [] := by
        rcases isProposal with ⟨length, position, isLongest, -, -⟩ | ⟨-, isDrafts⟩
        · have atLeast := isLongest.atLeast
          have within := isLongest.occurs.1
          omega
        · exact isDrafts
      rw [isDrafts, padded, List.map_map]
      apply List.map_congr_left
      intro i _
      exact ite_self _
  have bounded : drafts.length ≤ k := by
    rcases isProposal with ⟨length, position, -, isDrafts, -⟩ | ⟨-, isDrafts⟩
    · rw [isDrafts]
      exact List.length_take_le _ _
    · rw [isDrafts]
      exact Nat.zero_le _
  refine ⟨padded k drafts, _, ?_, take_padded bounded⟩
  rw [forward, extracted ordered fits isProposal]
  show Except.ok _ = Except.ok _
  rw [isMasked]

end

theorem forward_error {combinedMask : Bool} (ordered : minN ≤ maxN)
    (tooLong : tokenIds.length < maxN) {output : List Int × Nat} :
    forward tokenIds seqLength combinedMask minN maxN k ≠ .ok output := by
  intro ran
  obtain ⟨results, ranResults, -⟩ := bind_eq_ok.mp ran
  obtain ⟨positions, ranPositions, -⟩ := bind_eq_ok.mp ranResults
  have isLast : maxN - minN ∈ List.range (maxN - minN + 1) := List.mem_range.mpr (Nat.lt_succ_self _)
  obtain ⟨found, isFound⟩ := ran_of_mapM ranPositions isLast
  rw [Nat.add_sub_cancel' ordered, firstMatchPosition] at isFound
  rw [if_pos tooLong] at isFound
  exact nomatch isFound

end NgramGPUKernel

/-! ## The two proposers -/

theorem Proposal.unique {τ : Type} {tokens : List τ} {minNgram maxNgram k : Nat} {drafts others : List τ}
    (isProposal : Proposal tokens minNgram maxNgram k drafts) (isOther : Proposal tokens minNgram maxNgram k others) :
    drafts = others := by
  rcases isProposal with ⟨length, position, first, isDrafts, -⟩ | ⟨none, isDrafts⟩
  · rcases isOther with ⟨otherLength, otherPosition, second, isOthers, -⟩ | ⟨none, -⟩
    · have sameLength : length = otherLength := by
        rcases Nat.lt_trichotomy length otherLength with shorter | same | longer
        · exact absurd second.occurs (first.longest _ _ shorter second.atMost)
        · exact same
        · exact absurd first.occurs (second.longest _ _ longer first.atMost)
      subst sameLength
      have samePosition : position = otherPosition := by
        rcases Nat.lt_trichotomy position otherPosition with before | same | behind
        · exact absurd first.occurs (second.leftmost _ before)
        · exact same
        · exact absurd second.occurs (first.leftmost _ behind)
      rw [isDrafts, isOthers, samePosition]
    · exact absurd first.occurs (none _ _ first.atLeast first.atMost)
  · rcases isOther with ⟨_, _, second, -, -⟩ | ⟨-, isOthers⟩
    · exact absurd second.occurs (none _ _ second.atLeast second.atMost)
    · rw [isDrafts, isOthers]

/-- For a sequence in the row of the token buffer, the search on the host, within two passes a token,
and the kernel propose the tokens behind the first occurrence of the longest n-gram if and only if
the longest n-gram length fits the row. -/
theorem ngramProposers_match_iff {tokens : List Nat} {padding : List Int} {minN maxN k maxModelLen : Nat}
    (someNgram : 1 ≤ minN) (ordered : minN ≤ maxN) (someDraft : 1 ≤ k) (room : tokens.length + k ≤ maxModelLen)
    (isRow : (NgramGPUKernel.row tokens padding).length = maxModelLen) :
    (∃ drafts, Proposal tokens minN maxN k drafts ∧
      (∀ fuel, 2 * tokens.length ≤ fuel →
        findLongestMatchedNgramAndProposeTokens fuel tokens minN maxN maxModelLen k = some (.ok drafts)) ∧
      ∃ draftTokens numValid,
        NgramGPUKernel.forward (NgramGPUKernel.row tokens padding) tokens.length (decide (minN ≤ tokens.length))
          minN maxN k = .ok (draftTokens, numValid) ∧
        draftTokens.take numValid = drafts.map (↑)) ↔ maxN ≤ maxModelLen := by
  constructor
  · rintro ⟨drafts, -, -, draftTokens, numValid, ran, -⟩
    by_contra tooLong
    exact NgramGPUKernel.forward_error _ _ ordered (isRow.trans_lt (Nat.not_le.mp tooLong)) ran
  · intro fits
    obtain ⟨drafts, -, isProposal⟩ :=
      findLongestMatchedNgram_proposal someNgram ordered someDraft room (le_refl (2 * tokens.length))
    refine ⟨drafts, isProposal, fun fuel enough => ?_,
      NgramGPUKernel.forward_proposal ordered (fits.trans_eq isRow.symm) isProposal⟩
    obtain ⟨others, ran, isOther⟩ := findLongestMatchedNgram_proposal someNgram ordered someDraft room enough
    rw [ran, isProposal.unique isOther]

/-- With room for four tokens and n-grams of up to five, the host proposes a token and the kernel
raises an error. -/
theorem ngramProposers_longNgram :
    LongestMatch [7, 8, 7] 1 5 1 0 ∧
      findLongestMatchedNgramAndProposeTokens 6 [7, 8, 7] 1 5 4 1 = some (.ok [8]) ∧
      ∃ message, NgramGPUKernel.forward (NgramGPUKernel.row [7, 8, 7] [0]) 3 (decide (1 ≤ 3)) 1 5 1 =
        .error (.runtimeError message) := by
  refine ⟨⟨by decide, by decide, ⟨by decide, by decide⟩, ?_, nofun⟩, rfl, _, rfl⟩
  rintro longer other isLonger - ⟨within, agrees⟩
  have isShort : other + longer < 3 := within
  obtain rfl : other = 0 := by omega
  obtain rfl : longer = 2 := by omega
  exact absurd (agrees 0 (by decide)) (by decide)

/-- With n-grams of up to two tokens both propose it. -/
theorem ngramProposers_match_three : ∃ drafts draftTokens numValid, Proposal [7, 8, 7] 1 2 1 drafts ∧
    findLongestMatchedNgramAndProposeTokens 6 [7, 8, 7] 1 2 4 1 = some (.ok drafts) ∧
      NgramGPUKernel.forward (NgramGPUKernel.row [7, 8, 7] [0]) 3 (decide (1 ≤ 3)) 1 2 1 =
        .ok (draftTokens, numValid) ∧
      draftTokens.take numValid = drafts.map (↑) := by
  obtain ⟨drafts, isProposal, found, draftTokens, numValid, ran, isPrefix⟩ :=
    (ngramProposers_match_iff (le_refl 1) (by decide : 1 ≤ 2) (le_refl 1) (by decide : [7, 8, 7].length + 1 ≤ 4)
      (rfl : (NgramGPUKernel.row [7, 8, 7] [0]).length = 4)).mpr (by decide)
  exact ⟨drafts, draftTokens, numValid, isProposal, found 6 (le_refl 6), ran, isPrefix⟩

end DeepSpark
