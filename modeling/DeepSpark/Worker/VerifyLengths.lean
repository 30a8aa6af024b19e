import DeepSpark.Lib.PyStr
import DeepSpark.Lib.SortedArrays
import DeepSpark.Worker.CudaGraphs

/-!
The verify-length schedule of `v1/worker/gpu/spec_decode/dspark/speculator.py`.

Owns the parsing of the verify-length buckets, the rounding of a draft length to them, the
schedule of one batch over any ordered survival values, and which lengths it gives.
-/

namespace DeepSpark

open Lib

def parseVerifyLenBuckets (int : String → Option Int) (raw : Option String) (maxVerifyLen : Nat) :
    Option (List Nat) :=
  match raw with
  | none => none
  | some raw =>
    if raw.toList.all isSpace then none
    else some (sortedSet (maxVerifyLen ::
      ((listedInts int raw).filter fun bucket : Int => 1 ≤ bucket ∧ bucket ≤ maxVerifyLen).map Int.toNat))

def bucketDraftLength (buckets : Option (List Nat)) (draftLength : Nat) : Nat :=
  match buckets with
  | none => draftLength
  | some buckets =>
    let verifyLen := draftLength + 1
    let bucketIdx : Int := (bucketize buckets verifyLen : Int) - 1
    let bucketIdx := min (max bucketIdx 0) ((buckets.length : Int) - 1)
    buckets.getD bucketIdx.toNat 0 - 1

/-! ## The schedule -/

section

variable {α : Type} [LinearOrder α] {n : Nat}

def minPrefix (maxDraft : Nat) : Nat := max (maxDraft - 3) 1

/-- The clamped length of one request: how many of its survival values reach the threshold. -/
def perReqLength (threshold : α) (survivalProbs : Fin n → α) : Nat :=
  min (max ((List.finRange n).countP fun step => decide (threshold ≤ survivalProbs step)) (minPrefix n)) n

/-- `per_req_lengths.min()`. -/
def batchMinimum (threshold : α) (survivalProbs : List (Fin n → α)) : Nat :=
  (survivalProbs.map (perReqLength threshold)).min?.getD 0

def appendSurvival (history : List (List (Fin n → α))) (survivalProbs : List (Fin n → α)) :
    List (List (Fin n → α)) :=
  let grown := history ++ [survivalProbs]
  grown.drop (grown.length - 2)

/-- `_schedule_draft_lengths`, from the survival values of the requests: the lengths and the
survival history. -/
def scheduleDraftLengths (threshold : α) (buckets : Option (List Nat)) (history : List (List (Fin n → α)))
    (survivalProbs : List (Fin n → α)) : List Nat × List (List (Fin n → α)) :=
  let numReqs := survivalProbs.length
  let maxDraft := n
  let appended := appendSurvival history survivalProbs
  if numReqs ≤ 1 then (List.replicate numReqs maxDraft, appended)
  else if history.length < 2 then (List.replicate numReqs maxDraft, appended)
  else if numReqs ≤ 4 then (List.replicate numReqs maxDraft, appended)
  else
    let lengths := List.replicate numReqs (batchMinimum threshold survivalProbs)
    (lengths.map (bucketDraftLength buckets), appended)

end

/-! ## Rounding to the buckets -/

theorem sorted_sortedSet (values : List Nat) : (sortedSet values).Pairwise (· < ·) := by
  have sorted := sorted_unique values
  rwa [unique_keys] at sorted

/-- The buckets of an environment string: ascending, between one and the longest, which is one
of them. -/
theorem parseVerifyLenBuckets_spec {int : String → Option Int} {raw : Option String} {maxVerifyLen : Nat}
    {buckets : List Nat} (positive : 1 ≤ maxVerifyLen)
    (parsed : parseVerifyLenBuckets int raw maxVerifyLen = some buckets) :
    buckets.Pairwise (· < ·) ∧ maxVerifyLen ∈ buckets ∧ ∀ bucket ∈ buckets, 1 ≤ bucket ∧ bucket ≤ maxVerifyLen := by
  cases raw with
  | none => exact nomatch parsed
  | some raw =>
    rw [parseVerifyLenBuckets] at parsed
    split at parsed
    · exact nomatch parsed
    · cases parsed
      refine ⟨sorted_sortedSet _, mem_sortedSet.mpr List.mem_cons_self, fun bucket isBucket => ?_⟩
      rcases List.mem_cons.mp (mem_sortedSet.mp isBucket) with rfl | isListed
      · exact ⟨positive, le_refl _⟩
      · obtain ⟨value, isValue, rfl⟩ := List.mem_map.mp isListed
        have inRange := (List.mem_filter.mp isValue).2
        rw [decide_eq_true_eq] at inRange
        omega

/-- `rounded` is what rounding `draftLength` to the buckets gives: the greatest length that
does not exceed it, or the least one when all exceed it. -/
structure RoundsTo (buckets : List Nat) (draftLength rounded : Nat) : Prop where
  isBucket : rounded + 1 ∈ buckets
  notAbove : ∀ bucket ∈ buckets, bucket ≤ draftLength + 1 → rounded ≤ draftLength
  greatest : ∀ bucket ∈ buckets, bucket ≤ draftLength + 1 → bucket ≤ rounded + 1
  least : (∀ bucket ∈ buckets, draftLength + 1 < bucket) → ∀ bucket ∈ buckets, rounded + 1 ≤ bucket

theorem bucketDraftLength_rounds {buckets : List Nat} (sorted : buckets.Pairwise (· < ·)) (notEmpty : buckets ≠ [])
    (positive : ∀ bucket ∈ buckets, 1 ≤ bucket) (draftLength : Nat) :
    RoundsTo buckets draftLength (bucketDraftLength (some buckets) draftLength) := by
  have room : bucketize buckets (draftLength + 1) ≤ buckets.length :=
    (List.takeWhile_prefix _).length_le
  have someBucket := List.length_pos_of_ne_nil notEmpty
  -- whichever end clamps, the index is that of the search result less one, truncated
  have index : (min (max ((bucketize buckets (draftLength + 1) : Int) - 1) 0) ((buckets.length : Int) - 1)).toNat =
      bucketize buckets (draftLength + 1) - 1 := by omega
  have isSearched : bucketDraftLength (some buckets) draftLength =
      buckets.getD (bucketize buckets (draftLength + 1) - 1) 0 - 1 := by
    rw [bucketDraftLength, index]
  by_cases fits : ∃ bucket ∈ buckets, bucket ≤ draftLength + 1
  · obtain ⟨bucket, isBucket, notGreater⟩ := fits
    obtain ⟨found, isFound, -, foundFits, isGreatest⟩ := exists_bucketize sorted isBucket notGreater
    have isMember := List.mem_of_getElem? isFound
    have foundPositive := positive found isMember
    have isResult : bucketDraftLength (some buckets) draftLength = found - 1 := by
      rw [isSearched, List.getD, isFound, Option.getD_some]
    rw [isResult]
    have back : found - 1 + 1 = found := Nat.sub_add_cancel foundPositive
    constructor
    · rwa [back]
    · intro _ _ _
      omega
    · intro other isOther otherFits
      rw [back]
      exact isGreatest other isOther otherFits
    · intro allGreater
      exact absurd foundFits (allGreater found isMember).not_ge
  · have allGreater : ∀ bucket ∈ buckets, draftLength + 1 < bucket := by
      intro bucket isBucket
      exact not_le.mp fun notGreater => fits ⟨bucket, isBucket, notGreater⟩
    have isFirst : buckets[0]? = some buckets[0] := List.getElem?_eq_getElem someBucket
    have isMember := List.mem_of_getElem? isFirst
    have firstPositive := positive _ isMember
    have isResult : bucketDraftLength (some buckets) draftLength = buckets[0] - 1 := by
      rw [isSearched, bucketize_eq_zero sorted allGreater, List.getD, isFirst, Option.getD_some]
    rw [isResult]
    have back : buckets[0] - 1 + 1 = buckets[0] := Nat.sub_add_cancel firstPositive
    constructor
    · rwa [back]
    · intro other isOther otherFits
      exact absurd otherFits (allGreater other isOther).not_ge
    · intro other isOther otherFits
      exact absurd otherFits (allGreater other isOther).not_ge
    · intro _ other isOther
      rw [back]
      exact head_le sorted isFirst other isOther

namespace RoundsTo

variable {buckets : List Nat} {shorter longer roundedShorter roundedLonger draftLength rounded : Nat}

theorem mono (roundsShorter : RoundsTo buckets shorter roundedShorter) (roundsLonger : RoundsTo buckets longer roundedLonger)
    (notLonger : shorter ≤ longer) : roundedShorter ≤ roundedLonger := by
  by_cases fits : ∃ bucket ∈ buckets, bucket ≤ shorter + 1
  · obtain ⟨bucket, isBucket, bucketFits⟩ := fits
    have below := roundsShorter.notAbove bucket isBucket bucketFits
    have ordered := roundsLonger.greatest _ roundsShorter.isBucket (by omega)
    omega
  · have allGreater : ∀ bucket ∈ buckets, shorter + 1 < bucket := by
      intro bucket isBucket
      exact not_le.mp fun bucketFits => fits ⟨bucket, isBucket, bucketFits⟩
    have ordered := roundsShorter.least allGreater _ roundsLonger.isBucket
    omega

/-- A length that rounding does not take below a bound has a bucket above the bound, or none
that it reaches. -/
theorem keeps_bound (rounds : RoundsTo buckets draftLength rounded) {bound : Nat} (holds : bound ≤ draftLength) :
    bound ≤ rounded ↔
      (∃ bucket ∈ buckets, bound < bucket ∧ bucket ≤ draftLength + 1) ∨ ∀ bucket ∈ buckets, draftLength + 1 < bucket := by
  constructor
  · intro reaches
    by_cases fits : ∃ bucket ∈ buckets, bucket ≤ draftLength + 1
    · obtain ⟨bucket, isBucket, bucketFits⟩ := fits
      have below := rounds.notAbove bucket isBucket bucketFits
      exact Or.inl ⟨_, rounds.isBucket, by omega, by omega⟩
    · right
      intro bucket isBucket
      exact not_le.mp fun bucketFits => fits ⟨bucket, isBucket, bucketFits⟩
  · rintro (⟨bucket, isBucket, above, bucketFits⟩ | allGreater)
    · have ordered := rounds.greatest bucket isBucket bucketFits
      omega
    · have above := allGreater _ rounds.isBucket
      omega

end RoundsTo

/-! ## The schedule of a batch -/

section

variable {α : Type} [LinearOrder α] {n : Nat}

theorem perReqLength_le (threshold : α) (survivalProbs : Fin n → α) : perReqLength threshold survivalProbs ≤ n :=
  min_le_right _ _

theorem minPrefix_le_perReqLength (steps : 1 ≤ n) (threshold : α) (survivalProbs : Fin n → α) :
    minPrefix n ≤ perReqLength threshold survivalProbs := by
  have bounded : minPrefix n ≤ n := max_le (Nat.sub_le n 3) steps
  exact le_min (le_max_right _ _) bounded

theorem perReqLength_mono {threshold : α} {lower raised : Fin n → α} (isRaised : ∀ step, lower step ≤ raised step) :
    perReqLength threshold lower ≤ perReqLength threshold raised := by
  have counted : (List.finRange n).countP (fun step => decide (threshold ≤ lower step)) ≤
      (List.finRange n).countP fun step => decide (threshold ≤ raised step) := by
    apply List.countP_mono_left
    intro step _ reaches
    exact decide_eq_true ((of_decide_eq_true reaches).trans (isRaised step))
  rw [perReqLength, perReqLength]
  omega

theorem batchMinimum_spec (threshold : α) {survivalProbs : List (Fin n → α)} (notEmpty : survivalProbs ≠ []) :
    (∃ request ∈ survivalProbs, batchMinimum threshold survivalProbs = perReqLength threshold request) ∧
      ∀ request ∈ survivalProbs, batchMinimum threshold survivalProbs ≤ perReqLength threshold request := by
  have someLength : survivalProbs.map (perReqLength threshold) ≠ [] := by simpa using notEmpty
  obtain ⟨least, isLeast⟩ := Option.isSome_iff_exists.mp (List.isSome_min?_of_ne_nil someLength)
  have spec := List.min?_eq_some_iff.mp isLeast
  have isMinimum : batchMinimum threshold survivalProbs = least := by rw [batchMinimum, isLeast, Option.getD_some]
  rw [isMinimum]
  obtain ⟨request, isRequest, isLength⟩ := List.mem_map.mp spec.1
  exact ⟨⟨request, isRequest, isLength.symm⟩, fun other isOther => spec.2 _ (List.mem_map_of_mem isOther)⟩

theorem batchMinimum_mono {threshold : α} {lower raised : List (Fin n → α)}
    (isRaised : List.Forall₂ (fun before after => ∀ step, before step ≤ after step) lower raised)
    (notEmpty : lower ≠ []) : batchMinimum threshold lower ≤ batchMinimum threshold raised := by
  have raisedNotEmpty : raised ≠ [] := by
    rintro rfl
    exact notEmpty (List.forall₂_nil_right_iff.mp isRaised)
  obtain ⟨after, isAfter, isMinimum⟩ := (batchMinimum_spec threshold raisedNotEmpty).1
  obtain ⟨index, isAt⟩ := List.getElem?_of_mem isAfter
  obtain ⟨before, isBefore, ordered⟩ : ∃ before, before ∈ lower ∧ ∀ step, before step ≤ after step := by
    have inRaised : index < raised.length := (List.getElem?_eq_some_iff.mp isAt).1
    have inLower : index < lower.length := isRaised.length_eq.symm ▸ inRaised
    have pair := isRaised.get inLower inRaised
    rw [List.getElem?_eq_getElem inRaised, Option.some_inj] at isAt
    rw [List.get_eq_getElem, List.get_eq_getElem, isAt] at pair
    exact ⟨lower[index], List.getElem_mem inLower, pair⟩
  rw [isMinimum]
  exact ((batchMinimum_spec threshold notEmpty).2 before isBefore).trans (perReqLength_mono ordered)

theorem minPrefix_le_batchMinimum (steps : 1 ≤ n) (threshold : α) {survivalProbs : List (Fin n → α)}
    (notEmpty : survivalProbs ≠ []) : minPrefix n ≤ batchMinimum threshold survivalProbs := by
  obtain ⟨request, _, isMinimum⟩ := (batchMinimum_spec threshold notEmpty).1
  rw [isMinimum]
  exact minPrefix_le_perReqLength steps threshold request

theorem batchMinimum_le (threshold : α) {survivalProbs : List (Fin n → α)} (notEmpty : survivalProbs ≠ []) :
    batchMinimum threshold survivalProbs ≤ n := by
  obtain ⟨request, _, isMinimum⟩ := (batchMinimum_spec threshold notEmpty).1
  rw [isMinimum]
  exact perReqLength_le threshold request

def scheduledLength (threshold : α) (buckets : Option (List Nat)) (history : List (List (Fin n → α)))
    (survivalProbs : List (Fin n → α)) : Nat :=
  if survivalProbs.length ≤ 4 ∨ history.length < 2 then n
  else bucketDraftLength buckets (batchMinimum threshold survivalProbs)

theorem scheduleDraftLengths_eq (threshold : α) (buckets : Option (List Nat)) (history : List (List (Fin n → α)))
    (survivalProbs : List (Fin n → α)) :
    (scheduleDraftLengths threshold buckets history survivalProbs).1 =
      List.replicate survivalProbs.length (scheduledLength threshold buckets history survivalProbs) := by
  rw [scheduleDraftLengths, scheduledLength]
  by_cases fewRequests : survivalProbs.length ≤ 4
  · rw [if_pos (Or.inl fewRequests)]
    split_ifs <;> rfl
  · have several : ¬ survivalProbs.length ≤ 1 := by omega
    by_cases shortHistory : history.length < 2
    · rw [if_neg several, if_pos shortHistory, if_pos (Or.inr shortHistory)]
    · rw [if_neg several, if_neg shortHistory, if_neg fewRequests, if_neg (not_or.mpr ⟨fewRequests, shortHistory⟩)]
      exact List.map_replicate

variable {int : String → Option Int} {raw : Option String} {threshold : α} {history : List (List (Fin n → α))}
  {survivalProbs : List (Fin n → α)}

theorem scheduledLength_full {buckets : Option (List Nat)}
    (keepsFull : survivalProbs.length ≤ 4 ∨ history.length < 2) :
    scheduledLength threshold buckets history survivalProbs = n := if_pos keepsFull

omit [LinearOrder α] in
theorem ne_nil_of_shortens (shortens : ¬ (survivalProbs.length ≤ 4 ∨ history.length < 2)) : survivalProbs ≠ [] := by
  rintro rfl
  exact shortens (Or.inl (Nat.zero_le 4))

theorem scheduledLength_rounds {buckets : List Nat} (parsed : parseVerifyLenBuckets int raw (n + 1) = some buckets)
    (shortens : ¬ (survivalProbs.length ≤ 4 ∨ history.length < 2)) :
    RoundsTo buckets (batchMinimum threshold survivalProbs)
      (scheduledLength threshold (some buckets) history survivalProbs) := by
  obtain ⟨sorted, isBucket, inRange⟩ := parseVerifyLenBuckets_spec (Nat.le_add_left 1 n) parsed
  rw [scheduledLength, if_neg shortens]
  exact bucketDraftLength_rounds sorted (List.ne_nil_of_mem isBucket) (fun bucket member => (inRange bucket member).1) _

theorem scheduledLength_isBucket {buckets : List Nat} (parsed : parseVerifyLenBuckets int raw (n + 1) = some buckets) :
    scheduledLength threshold (some buckets) history survivalProbs + 1 ∈ buckets := by
  by_cases keepsFull : survivalProbs.length ≤ 4 ∨ history.length < 2
  · rw [scheduledLength_full keepsFull]
    exact (parseVerifyLenBuckets_spec (Nat.le_add_left 1 n) parsed).2.1
  · exact (scheduledLength_rounds parsed keepsFull).isBucket

theorem scheduledLength_le {buckets : Option (List Nat)} (parsed : parseVerifyLenBuckets int raw (n + 1) = buckets) :
    scheduledLength threshold buckets history survivalProbs ≤ n := by
  cases buckets with
  | some buckets =>
    have isBucket : scheduledLength threshold (some buckets) history survivalProbs + 1 ∈ buckets :=
      scheduledLength_isBucket parsed
    have inRange := (parseVerifyLenBuckets_spec (Nat.le_add_left 1 n) parsed).2.2 _ isBucket
    omega
  | none =>
    rw [scheduledLength]
    split_ifs with keepsFull
    · exact le_refl n
    · exact batchMinimum_le threshold (ne_nil_of_shortens keepsFull)

theorem scheduledLength_mono {buckets : Option (List Nat)} (parsed : parseVerifyLenBuckets int raw (n + 1) = buckets)
    {raised : List (Fin n → α)}
    (isRaised : List.Forall₂ (fun before after => ∀ step, before step ≤ after step) survivalProbs raised) :
    scheduledLength threshold buckets history survivalProbs ≤ scheduledLength threshold buckets history raised := by
  by_cases keepsFull : survivalProbs.length ≤ 4 ∨ history.length < 2
  · rw [scheduledLength_full keepsFull, scheduledLength_full (isRaised.length_eq ▸ keepsFull)]
  · have keepsFullToo : ¬ (raised.length ≤ 4 ∨ history.length < 2) := isRaised.length_eq ▸ keepsFull
    have ordered : batchMinimum threshold survivalProbs ≤ batchMinimum threshold raised :=
      batchMinimum_mono isRaised (ne_nil_of_shortens keepsFull)
    cases buckets with
    | none =>
      rw [scheduledLength, scheduledLength, if_neg keepsFull, if_neg keepsFullToo]
      exact ordered
    | some buckets =>
      exact (scheduledLength_rounds parsed keepsFull).mono (scheduledLength_rounds parsed keepsFullToo) ordered

/-- The lengths of a batch are one length of the lattice: the full one while the batch is small
or the history is short, else the rounded minimum of the batch. -/
theorem scheduleDraftLengths_lattice (int : String → Option Int) (raw : Option String) {n : Nat} (steps : 1 ≤ n)
    (threshold : α) (history : List (List (Fin n → α))) (survivalProbs : List (Fin n → α))
    {buckets : Option (List Nat)} (isParsed : parseVerifyLenBuckets int raw (n + 1) = buckets) {m : Nat}
    (isMinimum : m = batchMinimum threshold survivalProbs) :
    ∃ length, (scheduleDraftLengths threshold buckets history survivalProbs).1 =
        List.replicate survivalProbs.length length ∧
      length ≤ n ∧
      (∀ configured, buckets = some configured → length + 1 ∈ configured) ∧
      ((survivalProbs.length ≤ 4 ∨ history.length < 2) → length = n) ∧
      (¬ (survivalProbs.length ≤ 4 ∨ history.length < 2) →
        (minPrefix n ≤ m ∧ m ≤ n) ∧
        (buckets = none → length = m) ∧
        ∀ configured, buckets = some configured → RoundsTo configured m length ∧
          (minPrefix n ≤ length ↔
            (∃ bucket ∈ configured, minPrefix n < bucket ∧ bucket ≤ m + 1) ∨ ∀ bucket ∈ configured, m + 1 < bucket)) ∧
      ∀ raised : List (Fin n → α),
        List.Forall₂ (fun before after => ∀ step, before step ≤ after step) survivalProbs raised →
          ∃ longer, (scheduleDraftLengths threshold buckets history raised).1 =
            List.replicate survivalProbs.length longer ∧ length ≤ longer := by
  subst isMinimum
  refine ⟨_, scheduleDraftLengths_eq threshold buckets history survivalProbs, scheduledLength_le isParsed, ?_,
    scheduledLength_full, ?_, ?_⟩
  · intro configured parsed
    rw [parsed]
    exact scheduledLength_isBucket (isParsed.trans parsed)
  · intro shortens
    have notEmpty := ne_nil_of_shortens shortens
    have minimum := minPrefix_le_batchMinimum steps threshold notEmpty
    refine ⟨⟨minimum, batchMinimum_le threshold notEmpty⟩, ?_, ?_⟩
    · intro unset
      rw [unset, scheduledLength, if_neg shortens]
      rfl
    · intro configured parsed
      have rounds : RoundsTo configured (batchMinimum threshold survivalProbs)
          (scheduledLength threshold buckets history survivalProbs) := by
        rw [parsed]
        exact scheduledLength_rounds (isParsed.trans parsed) shortens
      exact ⟨rounds, rounds.keeps_bound minimum⟩
  · intro raised isRaised
    refine ⟨_, ?_, scheduledLength_mono isParsed isRaised⟩
    rw [isRaised.length_eq]
    exact scheduleDraftLengths_eq threshold buckets history raised

end

private def digits (part : String) : Option Int :=
  if part = "2" then some 2 else if part = "4" then some 4 else none

private theorem parsed_twoFour : parseVerifyLenBuckets digits (some "2,4") 6 = some [2, 4, 6] := by
  have same : ("2,4".map fun character => if character = ';' ∨ character = ' ' then ',' else character) = "2,4" := by
    rw [← String.toList_inj, String.toList_map]
    rfl
  have parts : "2,4".splitOn "," = ["2", "4"] := by
    rw [String.splitOn, if_neg (by decide), String.splitOnAux, if_neg (by decide), if_neg (by decide),
      String.splitOnAux, if_neg (by decide), if_pos (by decide)]
    rw [if_pos (by decide), String.splitOnAux, if_neg (by decide), if_neg (by decide), String.splitOnAux,
      if_pos (by decide)]
    decide
  have listed : listedInts digits "2,4" = [2, 4] := by
    rw [listedInts, same, parts]
    decide
  have notBlank : "2,4".toList.all isSpace = false := by decide
  rw [parseVerifyLenBuckets, listed, notBlank]
  rfl

/-- Five steps survive in two of the requests and four in the others. -/
private def fiveSurvivals : List (Fin 5 → Nat) :=
  [fun _ => 1, fun step => 4 - step, fun step => 4 - step, fun _ => 1, fun step => 4 - step]

/-- Four steps of five are rounded down to three, where the bucket of four tokens ends. -/
theorem scheduleDraftLengths_lattice_fiveRequests :
    (scheduleDraftLengths 1 (some [2, 4, 6]) [[], []] fiveSurvivals).1 = List.replicate 5 3 ∧
      batchMinimum 1 fiveSurvivals = 4 ∧ RoundsTo [2, 4, 6] 4 3 ∧ minPrefix 5 ≤ 3 ∧
      ∀ raised : List (Fin 5 → Nat),
        List.Forall₂ (fun before after => ∀ step, before step ≤ after step) fiveSurvivals raised →
          ∃ longer, (scheduleDraftLengths 1 (some [2, 4, 6]) [[], []] raised).1 = List.replicate 5 longer ∧
            3 ≤ longer := by
  obtain ⟨length, lengths, -, -, -, shortened, raises⟩ := scheduleDraftLengths_lattice digits (some "2,4")
    (by decide) 1 [[], []] fiveSurvivals parsed_twoFour rfl
  have isThree : length = 3 := (List.cons.inj lengths).1.symm.trans (by decide)
  subst isThree
  obtain ⟨-, -, rounds⟩ := shortened (by decide)
  have minimum : batchMinimum 1 fiveSurvivals = 4 := by decide
  obtain ⟨isRounded, -⟩ := rounds [2, 4, 6] rfl
  exact ⟨lengths, minimum, minimum ▸ isRounded, by decide, raises⟩

/-- An entry that is no integer leaves one bucket, and every length of a batch of five is
rounded up to it. -/
theorem scheduleDraftLengths_aboveMinimum :
    ∃ length ∈ (scheduleDraftLengths 1 (parseVerifyLenBuckets (fun _ => none) (some "x") 6) [[], []]
        (List.replicate 5 fun _ : Fin 5 => 0)).1,
      ¬ length ≤ batchMinimum 1 (List.replicate 5 fun _ : Fin 5 => 0) := by
  have parsed : parseVerifyLenBuckets (fun _ => none) (some "x") 6 = some [6] := by
    have noneListed : listedInts (fun _ => none) "x" = [] := by
      rw [listedInts, List.filterMap_eq_nil_iff]
      intro part _
      split_ifs <;> rfl
    have notBlank : "x".toList.all isSpace = false := by decide
    rw [parseVerifyLenBuckets, noneListed, notBlank]
    rfl
  rw [parsed]
  exact ⟨5, by decide, by decide⟩

end DeepSpark
