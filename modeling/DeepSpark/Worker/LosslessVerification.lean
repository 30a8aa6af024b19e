import DeepSpark.Worker.ExactArithmetic
import DeepSpark.Worker.GreedyVerification

/-!
Verification above temperature zero is lossless in exact arithmetic.

Owns the verifier the acceptance test and the residual rows amount to, its balance,
the invariant of the acceptance loop of a sampled request, and the law of what
`rejection_sample` returns: an exact draw from the softmax of the residual row stands
in for the Gumbel argmax, and the acceptance uniforms are read from a tape.
-/

noncomputable section

namespace DeepSpark

open Lib MeasureTheory
open scoped ENNReal

variable {v : Nat} [NeZero v]

/-! ## The verifier -/

/-- Where drafts come from: rows of draft logits with draws from their softmax, or no
rows and any proposal. -/
structure Drafter (v : Nat) [NeZero v] where
  rows : Option (List (Fin v) → Logits v)
  proposal : List (Fin v) → PMF (Fin v)
  drawn : ∀ logits, rows = some logits → ∀ prior, proposal prior = softmax (logits prior).row

namespace Drafter

variable (drafter : Drafter v) (policy : List (Fin v) → Logits v)

/-- The draft probability of the acceptance test: that of the draft logits, or one. -/
def prob (prior : List (Fin v)) (draft : Fin v) : ℝ≥0∞ :=
  match drafter.rows with
  | some logits => (logits prior).prob draft
  | none => 1

def residualRow (prior : List (Fin v)) (draft token : Fin v) : EReal :=
  match drafter.rows with
  | some logits => ENNReal.log ((policy prior).prob token - (logits prior).prob token)
  | none => if token ≠ draft then (policy prior).row token else ⊥

def verifier : Verifier (Fin v) where
  accept prior draft := uniform (acceptingUniforms ((policy prior).prob draft) (drafter.prob prior draft))
  accept_le_one _ _ := uniform_le_one _
  residual prior draft := softmax (drafter.residualRow policy prior draft)

/-- With draft logits, acceptance takes the ratio and the residual is the normalised
excess. -/
theorem balanced_rows {logits : List (Fin v) → Logits v} (isRows : drafter.rows = some logits) :
    Balanced (fun prior => softmax (policy prior).row) drafter.proposal (drafter.verifier policy) := by
  have proposal : ∀ prior token, drafter.proposal prior token = (logits prior).prob token := by
    intro prior token
    rw [drafter.drawn logits isRows, Logits.softmax_eq_prob]
  apply balanced_of_ratio
  · intro prior token
    rw [proposal, Logits.softmax_eq_prob]
    show _ * uniform (acceptingUniforms _ (drafter.prob prior token)) = _
    rw [prob, isRows]
    by_cases isZero : (logits prior).prob token = 0
    · rw [isZero, zero_mul, zero_min]
    · have notTop := (logits prior).prob_ne_top token
      rw [uniform_acceptingUniforms ((policy prior).prob_ne_top token) isZero notTop,
        mul_min_of_nonneg _ _ zero_le, mul_one, ENNReal.mul_div_cancel isZero notTop]
  · intro prior draft token notZero
    simp only [proposal, Logits.softmax_eq_prob] at notZero ⊢
    have row : ∀ other, EReal.exp (drafter.residualRow policy prior draft other) =
        (policy prior).prob other - (logits prior).prob other := by
      intro other
      rw [residualRow, isRows]
      exact ENNReal.exp_log _
    have finite : ∑ other, ((policy prior).prob other - (logits prior).prob other) ≠ ∞ := by
      apply ENNReal.sum_ne_top.mpr
      intro other _
      exact ne_top_of_le_ne_top ((policy prior).prob_ne_top other) tsub_le_self
    show _ * softmax (drafter.residualRow policy prior draft) token = _
    rw [softmax_apply (by simpa only [row] using notZero) (by simpa only [row] using finite)]
    simp only [row]
    exact ENNReal.mul_div_cancel notZero finite

/-- Without draft logits, acceptance takes the probability of the draft and the residual
is the target without it. -/
theorem balanced_oneHot (noRows : drafter.rows = none) :
    Balanced (fun prior => softmax (policy prior).row) drafter.proposal (drafter.verifier policy) := by
  have le_one : ∀ prior token, (policy prior).prob token ≤ 1 := by
    intro prior token
    rw [← Logits.softmax_eq_prob]
    exact PMF.coe_le_one _ _
  apply balanced_of_oneHot
  · intro prior draft
    show uniform (acceptingUniforms _ (drafter.prob prior draft)) = softmax (policy prior).row draft
    rw [prob, noRows]
    rw [uniform_acceptingUniforms ((policy prior).prob_ne_top draft) one_ne_zero ENNReal.one_ne_top,
      Logits.softmax_eq_prob, div_one, min_eq_right (le_one prior draft)]
  · intro prior draft token notCertain
    rw [Logits.softmax_eq_prob] at notCertain
    rw [Logits.softmax_eq_prob, Logits.softmax_eq_prob]
    set target := policy prior with isTarget
    have row : ∀ other, EReal.exp (drafter.residualRow policy prior draft other) =
        if other = draft then 0 else EReal.exp (target.row other) := by
      intro other
      rw [residualRow, noRows]
      by_cases same : other = draft
      · rw [if_neg (not_not.mpr same), if_pos same, EReal.exp_bot]
      · rw [if_pos same, if_neg same]
    set rest := ∑ other, if other = draft then 0 else EReal.exp (target.row other) with isRest
    have split : EReal.exp (target.row draft) + rest = target.total := by
      have one : EReal.exp (target.row draft) =
          ∑ other, if other = draft then EReal.exp (target.row other) else 0 := by simp
      rw [isRest, one, ← Finset.sum_add_distrib, Logits.total]
      apply Finset.sum_congr rfl
      intro other _
      split <;> simp
    have drafted : EReal.exp (target.row draft) ≠ ∞ :=
      fun isTop => target.notTop draft (EReal.exp_eq_top_iff.mp isTop)
    have restNotTop : rest ≠ ∞ :=
      ne_top_of_le_ne_top target.total_ne_top (split ▸ le_add_self)
    have restNotZero : rest ≠ 0 := by
      intro isZero
      apply notCertain
      rw [isZero, add_zero] at split
      rw [Logits.prob, split, ENNReal.div_self target.total_ne_zero target.total_ne_top]
    have remaining : 1 - target.prob draft = rest / target.total := by
      rw [← ENNReal.div_self target.total_ne_zero target.total_ne_top, Logits.prob, ← ENNReal.sub_div]
      · rw [← split, ENNReal.add_sub_cancel_left drafted]
      · intro _ _
        exact target.total_ne_zero
    show _ * softmax (drafter.residualRow policy prior draft) token = _
    rw [softmax_apply (by simpa only [row] using restNotZero) (by simpa only [row] using restNotTop)]
    simp only [row]
    rw [← isRest, remaining]
    split
    next => rw [ENNReal.zero_div, mul_zero]
    next =>
      rw [Logits.prob, div_eq_mul_inv, div_eq_mul_inv, div_eq_mul_inv, mul_mul_mul_comm, mul_comm rest,
        mul_mul_mul_comm, ENNReal.mul_inv_cancel restNotZero restNotTop, mul_one]

theorem balanced :
    Balanced (fun prior => softmax (policy prior).row) drafter.proposal (drafter.verifier policy) := by
  cases isRows : drafter.rows with
  | some logits => exact drafter.balanced_rows policy isRows
  | none => exact drafter.balanced_oneHot policy isRows

end Drafter

open RejectionInputs

/-! ## A sampled request of a batch -/

/-- A request above temperature zero whose batch was built after a prefix: its rows are
those of the policy and of the drafter behind the drafts before them, and its
acceptance uniforms are on a tape. -/
structure Verifies (inputs : RejectionInputs EReal) (fns : DeviceFns EReal) (reqIdx : Nat)
    (policy : List (Fin v) → Logits v) (drafter : Drafter v) (prior drafts : List (Fin v))
    (tape : Nat → ℝ) : Prop where
  wellFormed : inputs.WellFormed
  exact : ExactFns fns
  vocabulary : inputs.vocabSize = v
  inBatch : reqIdx < inputs.numReqs
  isSampled : inputs.temperature (inputs.idxMapping reqIdx) ≠ 0
  noSynthetic : inputs.syntheticConditionalRates = none
  numDrafts : inputs.numDrafts reqIdx = drafts.length
  draft : ∀ i (below : i < drafts.length), inputs.draft reqIdx i = (drafts[i] : Nat)
  target : ∀ i ≤ drafts.length, ∀ token : Fin v,
    inputs.targetLogits (inputs.cuNumLogits reqIdx + i) token =
      (policy (prior ++ drafts.take i)).row token
  noRows : drafter.rows = none → inputs.draftLogits = none
  someRows : ∀ logits, drafter.rows = some logits → ∃ draftLogits,
    inputs.draftLogits = some draftLogits ∧ ∀ i < drafts.length, ∀ token : Fin v,
      draftLogits (inputs.idxMapping reqIdx) i token = (logits (prior ++ drafts.take i)).row token
  uniforms : ∀ i < drafts.length, fns.rand64 (inputs.seed (inputs.idxMapping reqIdx))
    (inputs.pos (inputs.cuNumLogits reqIdx + i)) = (tape i : EReal)

omit [NeZero v] in
theorem expTotal_eq_total {row : Nat → EReal} {logits : Logits v}
    (isRow : ∀ token : Fin v, row token = logits.row token) : expTotal row v = logits.total := by
  rw [expTotal, Finset.sum_range, Logits.total]
  simp only [isRow]

omit [NeZero v] in
theorem computeGlobalLse_logits {fns : DeviceFns EReal} (exact : ExactFns fns) {row localMax localSumexp : Nat → EReal}
    {logits : Logits v} {size padded : Nat} (positive : 0 < size) (fits : cdiv v size ≤ padded)
    (isRow : ∀ token : Fin v, row token = logits.row token)
    (stats : ∀ block < cdiv v size, (localMax block, localSumexp block) =
      computeBlockMaxAndSumexp fns (tile row v size block) size) :
    computeGlobalLse fns localMax localSumexp (cdiv v size) padded = ENNReal.log logits.total := by
  rw [← expTotal_eq_total isRow]
  apply computeGlobalLse_exact exact positive fits stats
  · intro token below
    rw [isRow ⟨token, below⟩]
    exact logits.notTop _
  · obtain ⟨token, notBot⟩ := logits.possible
    exact ⟨token, token.isLt, by rw [isRow]; exact notBot⟩

variable {i : Nat} {before : BlockStats EReal}

namespace Verifies

variable {inputs : RejectionInputs EReal} {fns : DeviceFns EReal} {reqIdx : Nat}
  {policy : List (Fin v) → Logits v} {drafter : Drafter v} {prior drafts : List (Fin v)}
  {tape : Nat → ℝ}

theorem slot (verifies : Verifies inputs fns reqIdx policy drafter prior drafts tape)
    (le : i ≤ drafts.length) :
    inputs.cuNumLogits reqIdx + i < inputs.cuNumLogits (reqIdx + 1) ∧
      inputs.expandedIdxMapping (inputs.cuNumLogits reqIdx + i) = inputs.idxMapping reqIdx ∧
      inputs.expandedLocalPos (inputs.cuNumLogits reqIdx + i) = i := by
  have someRow := verifies.wellFormed.someRow reqIdx verifies.inBatch
  have numDrafts := verifies.numDrafts
  unfold RejectionInputs.numDrafts at numDrafts
  have below : inputs.cuNumLogits reqIdx + i < inputs.cuNumLogits (reqIdx + 1) := by omega
  exact ⟨below, verifies.wellFormed.expanded reqIdx verifies.inBatch i below⟩

theorem stats (verifies : Verifies inputs fns reqIdx policy drafter prior drafts tape)
    {after : BlockStats EReal} (launched : inputs.StatsLaunched fns before after)
    (below : i < drafts.length) {block : Nat} (inBlocks : block < inputs.vocabNumBlocks) :
    (after.targetLocalMax (inputs.cuNumLogits reqIdx + i, block),
        after.targetLocalSumexp (inputs.cuNumLogits reqIdx + i, block)) =
      computeBlockMaxAndSumexp fns (tile (inputs.targetLogits (inputs.cuNumLogits reqIdx + i))
        inputs.vocabSize vocabBlockSize block) vocabBlockSize ∧
    ∀ draftLogits, inputs.draftLogits = some draftLogits →
      (after.draftLocalMax (inputs.cuNumLogits reqIdx + i, block),
        after.draftLocalSumexp (inputs.cuNumLogits reqIdx + i, block)) =
      computeBlockMaxAndSumexp fns (tile (draftLogits (inputs.idxMapping reqIdx) i)
        inputs.vocabSize vocabBlockSize block) vocabBlockSize := by
  obtain ⟨inRequest, isSlot, localPos⟩ := verifies.slot below.le
  have few := verifies.wellFormed.fewRows reqIdx verifies.inBatch
  have inRange := verifies.wellFormed.inRange reqIdx verifies.inBatch
  have numDrafts := verifies.numDrafts
  unfold RejectionInputs.numDrafts at numDrafts
  have inGrid : (inputs.cuNumLogits reqIdx + i, block) ∈ inputs.statsGrid :=
    List.mem_product.mpr ⟨List.mem_range.mpr (by omega), List.mem_range.mpr inBlocks⟩
  have isDraft : ¬ inputs.expandedLocalPos (inputs.cuNumLogits reqIdx + i) ≥ inputs.numSpeculativeSteps := by
    omega
  set targetStats := computeBlockMaxAndSumexp fns (tile
    (inputs.targetLogits (inputs.cuNumLogits reqIdx + i)) inputs.vocabSize vocabBlockSize block)
    vocabBlockSize with isTarget
  cases isLogits : inputs.draftLogits with
  | none =>
    have kernel : inputs.computeBlockStatsKernel fns (inputs.cuNumLogits reqIdx + i, block) =
        { targetLocalMax := some targetStats.1, targetLocalSumexp := some targetStats.2 } := by
      rw [computeBlockStatsKernel]
      rw [if_neg isDraft, isSlot, if_neg verifies.isSampled, isLogits]
    refine ⟨Prod.ext ?_ ?_, fun _ isSome => by cases isSome⟩
    · exact launched.targetLocalMax.own inGrid (by rw [kernel])
    · exact launched.targetLocalSumexp.own inGrid (by rw [kernel])
  | some draftLogits =>
    set draftStats := computeBlockMaxAndSumexp fns (tile
      (draftLogits (inputs.idxMapping reqIdx) i) inputs.vocabSize vocabBlockSize block)
      vocabBlockSize with isDraftStats
    have kernel : inputs.computeBlockStatsKernel fns (inputs.cuNumLogits reqIdx + i, block) =
        { targetLocalMax := some targetStats.1, targetLocalSumexp := some targetStats.2,
          draftLocalMax := some draftStats.1, draftLocalSumexp := some draftStats.2 } := by
      rw [computeBlockStatsKernel]
      rw [if_neg isDraft, isSlot, if_neg verifies.isSampled, isLogits, localPos]
    refine ⟨Prod.ext ?_ ?_, ?_⟩
    · exact launched.targetLocalMax.own inGrid (by rw [kernel])
    · exact launched.targetLocalSumexp.own inGrid (by rw [kernel])
    · intro found isFound
      cases isFound
      refine Prod.ext ?_ ?_
      · exact launched.draftLocalMax.own inGrid (by rw [kernel])
      · exact launched.draftLocalSumexp.own inGrid (by rw [kernel])

end Verifies

/-! ## The acceptance loop -/

def acceptanceTests (policy : List (Fin v) → Logits v) (drafter : Drafter v)
    (prior drafts : List (Fin v)) (i : Nat) : Set ℝ :=
  match drafts[i]? with
  | some draft => acceptingUniforms ((policy (prior ++ drafts.take i)).prob draft)
      (drafter.prob (prior ++ drafts.take i) draft)
  | none => Set.univ

/-- The log-sum-exps the loop leaves for the resampling of the row at an index. -/
structure RowLses (policy : List (Fin v) → Logits v) (drafter : Drafter v)
    (prior drafts : List (Fin v)) (i : Nat) (targetLse draftLse : EReal) : Prop where
  target : targetLse = ENNReal.log (policy (prior ++ drafts.take i)).total
  draft : ∀ logits, drafter.rows = some logits →
    draftLse = ENNReal.log (logits (prior ++ drafts.take i)).total

def draftStores (inputs : RejectionInputs EReal) (reqIdx count : Nat) : List (Store (Nat × Nat) Int) :=
  (List.range count).map fun i => ⟨(reqIdx, i), inputs.draft reqIdx i⟩

theorem draftStores_succ (inputs : RejectionInputs EReal) (reqIdx count : Nat) :
    draftStores inputs reqIdx (count + 1) = draftStores inputs reqIdx count ++
      [⟨(reqIdx, count), inputs.draft reqIdx count⟩] := by
  rw [draftStores, List.range_succ, List.map_append]
  rfl

/-- The loop of a sampled request, stopped or not: the drafts before `rejectedStep`
passed their tests and are stored, and the log-sum-exps are those of the row it
stopped at. -/
structure SampledLoop (inputs : RejectionInputs EReal) (reqIdx : Nat)
    (policy : List (Fin v) → Logits v) (drafter : Drafter v) (prior drafts : List (Fin v))
    (tape : Nat → ℝ) (visited : Nat) (state : RejectionState EReal) : Prop where
  le : state.rejectedStep ≤ visited
  passed : ∀ i < state.rejectedStep, tape i ∈ acceptanceTests policy drafter prior drafts i
  running : state.accepted = true → state.rejectedStep = visited ∧
    state.stores = draftStores inputs reqIdx visited
  stopped : state.accepted = false → state.rejectedStep < visited ∧
    tape state.rejectedStep ∉ acceptanceTests policy drafter prior drafts state.rejectedStep ∧
    RowLses policy drafter prior drafts state.rejectedStep state.targetLse state.draftLse ∧
    state.stores = draftStores inputs reqIdx (state.rejectedStep + 1)

variable {fresh rejections : Rejections EReal}

namespace Verifies

variable {inputs : RejectionInputs EReal} {fns : DeviceFns EReal} {reqIdx : Nat}
  {policy : List (Fin v) → Logits v} {drafter : Drafter v} {prior drafts : List (Fin v)}
  {tape : Nat → ℝ}

section

variable {stats : BlockStats EReal}
  (verifies : Verifies inputs fns reqIdx policy drafter prior drafts tape)
  (launched : inputs.StatsLaunched fns before stats)

include verifies launched

/-- One round of the loop tests the uniform of its draft and keeps the log-sum-exps of
its row. -/
theorem rejectionStep_eq
    (below : i < drafts.length) (state : RejectionState EReal) :
    ∃ (targetLse draftLse : EReal) (accepted : Bool),
      RowLses policy drafter prior drafts i targetLse draftLse ∧
      (accepted = true ↔ tape i ∈ acceptanceTests policy drafter prior drafts i) ∧
      inputs.rejectionStep fns stats reqIdx i state =
        { rejectedStep := state.rejectedStep + accepted.toNat
          targetLse
          draftLse
          accepted
          stores := state.stores ++ [⟨(reqIdx, i), inputs.draft reqIdx i⟩] } := by
  have positive : 0 < vocabBlockSize := by decide
  have blocks : inputs.vocabNumBlocks = cdiv v vocabBlockSize := by
    rw [vocabNumBlocks, verifies.vocabulary]
  have isStats := fun block (inBlocks : block < inputs.vocabNumBlocks) => verifies.stats launched below inBlocks
  rw [verifies.vocabulary, blocks] at isStats
  have isTarget := verifies.target i below.le
  have targetLse := computeGlobalLse_logits verifies.exact positive
    (le_nextPowerOf2 (cdiv v vocabBlockSize)) isTarget fun block inBlocks => (isStats block inBlocks).1
  have isDraft : (inputs.draftSampled (inputs.cuNumLogits reqIdx + i + 1)) = (drafts[i] : Nat) :=
    verifies.draft i below
  have targetLogit := isTarget drafts[i]
  have isTest : acceptanceTests policy drafter prior drafts i =
      acceptingUniforms ((policy (prior ++ drafts.take i)).prob drafts[i])
        (drafter.prob (prior ++ drafts.take i) drafts[i]) := by
    rw [acceptanceTests, List.getElem?_eq_getElem below]
  cases isRows : drafter.rows with
  | none =>
    have prob : drafter.prob (prior ++ drafts.take i) drafts[i] = 1 := by
      rw [Drafter.prob, isRows]
    refine ⟨_, state.draftLse, acceptsDraft fns (tape i) (ENNReal.log
      ((policy (prior ++ drafts.take i)).prob drafts[i])) (ENNReal.log 1), ⟨rfl, ?_⟩, ?_, ?_⟩
    · intro logits isSome
      rw [isRows] at isSome
      cases isSome
    · rw [isTest, prob]
      exact acceptsDraft_exact verifies.exact (tape i) _ 1
    · rw [rejectionStep]
      dsimp only
      rw [if_neg verifies.isSampled, verifies.noSynthetic, verifies.noRows isRows, isDraft, blocks,
        verifies.uniforms i below, Int.toNat_natCast, targetLse, targetLogit, Logits.log_prob,
        ENNReal.log_one, RejectionInputs.draft, isDraft]
  | some logits =>
    obtain ⟨draftLogits, isSome, isDraftRow⟩ := verifies.someRows logits isRows
    have draftLse := computeGlobalLse_logits verifies.exact positive
      (le_nextPowerOf2 (cdiv v vocabBlockSize)) (isDraftRow i below)
      fun block inBlocks => (isStats block inBlocks).2 draftLogits isSome
    have prob : drafter.prob (prior ++ drafts.take i) drafts[i] =
        (logits (prior ++ drafts.take i)).prob drafts[i] := by
      rw [Drafter.prob, isRows]
    refine ⟨_, ENNReal.log (logits (prior ++ drafts.take i)).total, acceptsDraft fns (tape i)
      (ENNReal.log ((policy (prior ++ drafts.take i)).prob drafts[i]))
      (ENNReal.log ((logits (prior ++ drafts.take i)).prob drafts[i])), ⟨rfl, ?_⟩, ?_, ?_⟩
    · intro found isFound
      rw [isRows] at isFound
      rw [Option.some.inj isFound]
    · rw [isTest, prob]
      exact acceptsDraft_exact verifies.exact (tape i) _ _
    · rw [rejectionStep]
      dsimp only
      rw [if_neg verifies.isSampled, verifies.noSynthetic, isSome, isDraft, blocks,
        verifies.uniforms i below, Int.toNat_natCast, targetLse, targetLogit, Logits.log_prob]
      dsimp only
      rw [draftLse, isDraftRow i below, Logits.log_prob, RejectionInputs.draft, isDraft]

theorem rejectionStep_sampled {visited : Nat}
    (below : visited < drafts.length) {state : RejectionState EReal}
    (loop : SampledLoop inputs reqIdx policy drafter prior drafts tape visited state)
    (isRunning : state.accepted = true) :
    SampledLoop inputs reqIdx policy drafter prior drafts tape (visited + 1)
      (inputs.rejectionStep fns stats reqIdx visited state) := by
  obtain ⟨isVisited, stores⟩ := loop.running isRunning
  have passed := loop.passed
  obtain ⟨targetLse, draftLse, accepted, lses, test, step⟩ :=
    verifies.rejectionStep_eq launched below state
  rw [step, isVisited, stores, ← draftStores_succ]
  rw [isVisited] at passed
  cases accepted with
  | true =>
    refine ⟨le_rfl, fun i lt => ?_, fun _ => ⟨rfl, rfl⟩, nofun⟩
    have isBelow : i < visited + 1 := lt
    by_cases isLast : i = visited
    · rw [isLast]
      exact test.mp rfl
    · exact passed i (by omega)
  | false =>
    exact ⟨Nat.le_succ visited, passed, nofun, fun _ => ⟨Nat.lt_succ_self visited,
      fun passes => Bool.false_ne_true (test.mpr passes), lses, rfl⟩⟩

theorem rejectionLoop_sampled {visited count : Nat} (inDrafts : visited + count ≤ drafts.length)
    {state : RejectionState EReal}
    (loop : SampledLoop inputs reqIdx policy drafter prior drafts tape visited state) :
    SampledLoop inputs reqIdx policy drafter prior drafts tape (visited + count)
      (inputs.rejectionLoop fns stats reqIdx visited count state) := by
  refine rejectionLoop_keeps (fun i state _ below loop isRunning => ?_)
    (fun i state _ _ loop isStopped => ?_) loop
  · exact verifies.rejectionStep_sampled launched (by omega) loop isRunning
  · refine ⟨loop.le.trans (Nat.le_succ i), loop.passed, fun isRunning => absurd isRunning (by simp [isStopped]),
      fun _ => ?_⟩
    obtain ⟨below, rest⟩ := loop.stopped isStopped
    exact ⟨below.trans (Nat.lt_succ_self i), rest⟩

theorem rejectionKernel_sampled :
    SampledLoop inputs reqIdx policy drafter prior drafts tape drafts.length
      (inputs.rejectionKernel fns stats reqIdx) := by
  have start : SampledLoop inputs reqIdx policy drafter prior drafts tape 0 ⟨0, 0, 0, true, []⟩ :=
    ⟨le_rfl, fun i below => absurd below (Nat.not_lt_zero i), fun _ => ⟨rfl, rfl⟩, nofun⟩
  have loop := verifies.rejectionLoop_sampled launched (show 0 + drafts.length ≤ _ by rw [Nat.zero_add]) start
  rw [Nat.zero_add, ← verifies.numDrafts] at loop
  rw [← verifies.numDrafts]
  exact loop

end

theorem sampled_eq (verifies : Verifies inputs fns reqIdx policy drafter prior drafts tape)
    {stats : BlockStats EReal} (statsLaunched : inputs.StatsLaunched fns before stats)
    (launched : inputs.RejectionLaunched fns stats fresh rejections)
    (below : i < rejections.rejectedSteps reqIdx) :
    rejections.sampled (reqIdx, i) = inputs.draft reqIdx i := by
  have loop := verifies.rejectionKernel_sampled statsLaunched
  have steps := launched.rejectedSteps_eq verifies.inBatch
  rw [steps] at below
  have stores : ∃ count, (inputs.rejectionKernel fns stats reqIdx).stores =
      draftStores inputs reqIdx count ∧ i < count := by
    cases isAccepted : (inputs.rejectionKernel fns stats reqIdx).accepted with
    | true =>
      obtain ⟨isVisited, isStores⟩ := loop.running isAccepted
      exact ⟨_, isStores, isVisited ▸ below⟩
    | false =>
      obtain ⟨-, -, -, isStores⟩ := loop.stopped isAccepted
      exact ⟨_, isStores, by omega⟩
  obtain ⟨count, isStores, inCount⟩ := stores
  exact launched.sampled_eq verifies.inBatch isStores inCount

end Verifies

/-! ## The law of the result -/

/-- What `rejection_sample` returns for a request: the stored drafts before the stop,
and an exact draw from the softmax of the residual row. -/
def returned (v : Nat) [NeZero v] (inputs : RejectionInputs EReal) (fns : DeviceFns EReal)
    (rejections : Rejections EReal) (reqIdx : Nat) : PMF (List Int) :=
  (softmax fun token : Fin v => inputs.residualLane fns rejections reqIdx
    (token / resampleBlockSize) (token % resampleBlockSize)).map fun token =>
      (List.range (rejections.rejectedSteps reqIdx)).map (fun i => rejections.sampled (reqIdx, i)) ++
        [(token.val : Int)]

def tokenIds (tokens : List (Fin v)) : List Int := tokens.map fun token : Fin v => (token.val : Int)

omit [NeZero v] in
theorem tokenIds_append (front back : List (Fin v)) :
    tokenIds (front ++ back) = tokenIds front ++ tokenIds back := List.map_append

omit [NeZero v] in
theorem tokenIds_injective : Function.Injective (tokenIds (v := v)) :=
  List.map_injective_iff.mpr fun _ _ same => Fin.ext (Int.natCast_inj.mp same)

namespace Verifies

variable {inputs : RejectionInputs EReal} {fns : DeviceFns EReal} {reqIdx : Nat}
  {policy : List (Fin v) → Logits v} {drafter : Drafter v} {prior drafts : List (Fin v)}
  {tape : Nat → ℝ}

section

variable {stats : BlockStats EReal}
  (verifies : Verifies inputs fns reqIdx policy drafter prior drafts tape)
  (statsLaunched : inputs.StatsLaunched fns before stats)
  (launched : inputs.RejectionLaunched fns stats fresh rejections)

include verifies statsLaunched launched

/-- The row that is resampled: that of the bonus token, or the residual row of the
rejected draft. -/
theorem residualLane_eq (token : Fin v) :
    inputs.residualLane fns rejections reqIdx (token / resampleBlockSize) (token % resampleBlockSize) =
      match drafts[rejections.rejectedSteps reqIdx]? with
      | some draft => drafter.residualRow policy
          (prior ++ drafts.take (rejections.rejectedSteps reqIdx)) draft token
      | none => (policy (prior ++ drafts)).row token := by
  have loop := verifies.rejectionKernel_sampled statsLaunched
  have steps := launched.rejectedSteps_eq verifies.inBatch
  set k := rejections.rejectedSteps reqIdx with isK
  have le : k ≤ drafts.length := steps ▸ loop.le
  obtain ⟨-, isSlot, -⟩ := verifies.slot le
  have someRow := verifies.wellFormed.someRow reqIdx verifies.inBatch
  have numDrafts := verifies.numDrafts
  unfold RejectionInputs.numDrafts at numDrafts
  have isToken : (token : Nat) / resampleBlockSize * resampleBlockSize + token % resampleBlockSize =
      token := Nat.div_add_mod' _ _
  have isTarget : tile (inputs.targetLogits (inputs.cuNumLogits reqIdx + k)) inputs.vocabSize
      resampleBlockSize (token / resampleBlockSize) (token % resampleBlockSize) =
        (policy (prior ++ drafts.take k)).row token := by
    rw [tile, isToken, verifies.vocabulary, if_pos token.isLt, verifies.target k le]
  rw [residualLane]
  rw [← isK, isTarget, isSlot]
  by_cases isBonus : k = drafts.length
  · rw [if_pos (by omega), isBonus, List.getElem?_length, List.take_length]
  · have below : k < drafts.length := by omega
    rw [if_neg (by omega), List.getElem?_eq_getElem below]
    have isStopped : (inputs.rejectionKernel fns stats reqIdx).accepted = false := by
      cases isAccepted : (inputs.rejectionKernel fns stats reqIdx).accepted with
      | false => rfl
      | true => exact absurd (steps.trans (loop.running isAccepted).1) isBonus
    obtain ⟨-, -, lses, -⟩ := loop.stopped isStopped
    rw [← steps] at lses
    have targetLse : rejections.targetRejectedLogsumexp reqIdx = _ :=
      (launched.targetRejectedLogsumexp.own (List.mem_range.mpr verifies.inBatch) rfl).trans lses.target
    show _ = drafter.residualRow policy (prior ++ drafts.take k) drafts[k] token
    cases isRows : drafter.rows with
    | none =>
      rw [verifies.noRows isRows, Drafter.residualRow, isRows]
      have isDraft : inputs.draftSampled (inputs.cuNumLogits reqIdx + k + 1) = (drafts[k] : Nat) :=
        verifies.draft k below
      show (if ((token / resampleBlockSize * resampleBlockSize + token % resampleBlockSize : Nat) : Int) ≠
        _ then _ else _) = if token ≠ drafts[k] then _ else _
      rw [isToken, isDraft]
      simp only [ne_eq, Nat.cast_inj, Fin.val_inj]
    | some logits =>
      obtain ⟨draftLogits, isSome, isDraftRow⟩ := verifies.someRows logits isRows
      have draftLse : rejections.draftRejectedLogsumexp reqIdx = _ :=
        (launched.draftRejectedLogsumexp.own (List.mem_range.mpr verifies.inBatch) rfl).trans
          (lses.draft logits isRows)
      have isDraftTile : tile (draftLogits (inputs.idxMapping reqIdx) k) inputs.vocabSize
          resampleBlockSize (token / resampleBlockSize) (token % resampleBlockSize) =
            (logits (prior ++ drafts.take k)).row token := by
        rw [tile, isToken, verifies.vocabulary, if_pos token.isLt, isDraftRow k below]
      rw [isSome, Drafter.residualRow, isRows]
      dsimp only
      rw [isDraftTile, targetLse, draftLse, Logits.log_prob, Logits.log_prob, ← EReal.log_exp (residualLogit _ _ _),
        exp_residualLogit verifies.exact (Logits.prob_ne_top _ _)]

/-- In every run, a request returns what its verifier emits behind the drafts that pass
their tests. -/
theorem returned_eq :
    PassedTests (acceptanceTests policy drafter prior drafts) drafts.length tape
        (rejections.rejectedSteps reqIdx) ∧
      returned v inputs fns rejections reqIdx =
        (emitted (fun prior => softmax (policy prior).row) (drafter.verifier policy) drafts prior
          (rejections.rejectedSteps reqIdx)).map tokenIds := by
  have loop := verifies.rejectionKernel_sampled statsLaunched
  have steps := launched.rejectedSteps_eq verifies.inBatch
  have le : rejections.rejectedSteps reqIdx ≤ drafts.length := steps ▸ loop.le
  constructor
  · rw [steps]
    refine ⟨loop.le, loop.passed, fun below => ?_⟩
    cases isAccepted : (inputs.rejectionKernel fns stats reqIdx).accepted with
    | true => exact absurd (loop.running isAccepted).1 below.ne
    | false => exact (loop.stopped isAccepted).2.1
  · have stored : (List.range (rejections.rejectedSteps reqIdx)).map
        (fun i => rejections.sampled (reqIdx, i)) =
          tokenIds (drafts.take (rejections.rejectedSteps reqIdx)) := by
      apply List.ext_getElem
      · simp [tokenIds, le]
      · intro i inRange _
        have below : i < rejections.rejectedSteps reqIdx := by simpa using inRange
        simp only [List.getElem_map, List.getElem_range, tokenIds, List.getElem_take]
        rw [verifies.sampled_eq statsLaunched launched below, verifies.draft i (by omega)]
    rw [returned, stored, emitted, PMF.map_comp]
    have row := funext (verifies.residualLane_eq statsLaunched launched)
    rw [row]
    cases drafts[rejections.rejectedSteps reqIdx]? with
    | none =>
      congr 1
      funext token
      exact (tokenIds_append _ [token]).symm
    | some draft =>
      congr 1
      funext token
      exact (tokenIds_append _ [token]).symm

end

end Verifies

/-! ## Losslessness -/

/-- A run of `rejection_sample` for every list of drafts and every tape of uniforms. -/
structure Runs (policy : List (Fin v) → Logits v) (drafter : Drafter v) (n : Nat)
    (prior : List (Fin v)) where
  inputs : List (Fin v) → (Nat → ℝ) → RejectionInputs EReal
  fns : List (Fin v) → (Nat → ℝ) → DeviceFns EReal
  reqIdx : Nat
  rejections : List (Fin v) → (Nat → ℝ) → Rejections EReal
  verifies : ∀ drafts tape, drafts.length = n →
    Verifies (inputs drafts tape) (fns drafts tape) reqIdx policy drafter prior drafts tape
  launched : ∀ drafts tape, drafts.length = n → ∃ before stats fresh,
    (inputs drafts tape).StatsLaunched (fns drafts tape) before stats ∧
    (inputs drafts tape).RejectionLaunched (fns drafts tape) stats fresh (rejections drafts tape)

namespace Runs

variable {policy : List (Fin v) → Logits v} {drafter : Drafter v} {n : Nat} {prior : List (Fin v)}

/-- The probability that `rejection_sample` returns some tokens, over the drafts, the
uniforms and the resampling. -/
def returnedProb (runs : Runs policy drafter n prior) (tokens : List (Fin v)) : ℝ≥0∞ :=
  tsum fun drafts => ancestral drafter.proposal n prior drafts *
    ∫⁻ tape, returned v (runs.inputs drafts tape) (runs.fns drafts tape) (runs.rejections drafts tape)
      runs.reqIdx (tokenIds tokens) ∂tapeOf uniform

theorem returnedProb_eq (runs : Runs policy drafter n prior) (tokens : List (Fin v)) :
    runs.returnedProb tokens = speculate (fun prior => softmax (policy prior).row) drafter.proposal
      (drafter.verifier policy) n prior tokens := by
  rw [speculate, PMF.bind_apply, returnedProb]
  apply tsum_congr
  intro drafts
  by_cases differs : drafts.length ≠ n
  · rw [ancestral_eq_zero differs, zero_mul, zero_mul]
  have isLength : drafts.length = n := not_not.mp differs
  congr 1
  have spec : ∀ tape, PassedTests (acceptanceTests policy drafter prior drafts) drafts.length tape
        ((runs.rejections drafts tape).rejectedSteps runs.reqIdx) ∧
      returned v (runs.inputs drafts tape) (runs.fns drafts tape) (runs.rejections drafts tape)
          runs.reqIdx (tokenIds tokens) =
        emitted (fun prior => softmax (policy prior).row) (drafter.verifier policy) drafts prior
          ((runs.rejections drafts tape).rejectedSteps runs.reqIdx) tokens := by
    intro tape
    obtain ⟨before, stats, fresh, statsLaunched, launched⟩ := runs.launched drafts tape isLength
    obtain ⟨passed, isReturned⟩ :=
      (runs.verifies drafts tape isLength).returned_eq statsLaunched launched
    refine ⟨passed, ?_⟩
    rw [isReturned, PMF.map_apply, tsum_eq_single tokens, if_pos rfl]
    intro other isOther
    rw [if_neg fun same => isOther (tokenIds_injective same).symm]
  simp only [fun tape => (spec tape).2]
  refine @lintegral_emitted _ _ uniform _ _ _ _ drafts prior
    (acceptanceTests policy drafter prior drafts) _ ?_ ?_ ?_ _
  · intro i
    unfold acceptanceTests
    split
    next => exact measurableSet_acceptingUniforms _ _
    next => exact MeasurableSet.univ
  · intro done rest draft split
    have atDraft : drafts[done.length]? = some draft := by rw [split]; simp
    have front : drafts.take done.length = done := by rw [split]; simp
    rw [acceptanceTests, atDraft, front]
    rfl
  · exact fun tape => (spec tape).1

end Runs

def oneRequest (policy : List (Fin v) → Logits v) (drafter : Drafter v) (prior drafts : List (Fin v)) :
    RejectionInputs EReal where
  numReqs := 1
  numLogits := drafts.length + 1
  vocabSize := v
  targetLogits i token :=
    if below : token < v then (policy (prior ++ drafts.take i)).row ⟨token, below⟩ else ⊥
  draftLogits := drafter.rows.map fun logits _ i token =>
    if below : token < v then (logits (prior ++ drafts.take i)).row ⟨token, below⟩ else ⊥
  draftSampled row := ((drafts[row - 1]?).getD 0 : Fin v)
  cuNumLogits reqIdx := reqIdx * (drafts.length + 1)
  pos row := row
  idxMapping _ := 0
  expandedIdxMapping _ := 0
  expandedLocalPos row := row
  temperature _ := 1
  seed _ := 0
  numSpeculativeSteps := drafts.length
  syntheticConditionalRates := none

def tapeFns (tape : Nat → ℝ) : DeviceFns EReal where
  exp value := (EReal.exp value : EReal)
  log value := ENNReal.log value.toENNReal
  rand64 _ pos := (tape pos.toNat : EReal)
  gumbelNoise _ _ _ := 0

section

variable (policy : List (Fin v) → Logits v) (drafter : Drafter v)

include policy drafter

theorem oneRequest_wellFormed
    (prior drafts : List (Fin v)) : (oneRequest policy drafter prior drafts).WellFormed := by
  have only : ∀ reqIdx < 1, reqIdx = 0 := fun reqIdx inBatch => Nat.lt_one_iff.mp inBatch
  refine ⟨Nat.pos_of_ne_zero (NeZero.ne v), ?_, ?_, ?_, ?_⟩
  all_goals
    intro reqIdx inBatch
    rw [only reqIdx inBatch]
    simp [oneRequest]

theorem oneRequest_verifies (prior drafts : List (Fin v)) (tape : Nat → ℝ) :
    Verifies (oneRequest policy drafter prior drafts) (tapeFns tape) 0 policy drafter prior drafts tape where
  wellFormed := oneRequest_wellFormed policy drafter prior drafts
  exact := ⟨fun _ => rfl, fun _ => rfl⟩
  vocabulary := rfl
  inBatch := Nat.one_pos
  isSampled := one_ne_zero
  noSynthetic := rfl
  numDrafts := by simp [numDrafts, oneRequest]
  draft i below := by simp [RejectionInputs.draft, oneRequest, below]
  target i le token := by simp [oneRequest]
  noRows isNone := by simp [oneRequest, isNone]
  someRows logits isSome := ⟨_, by simp [oneRequest, isSome]; rfl, fun i _ token => by simp⟩
  uniforms i below := by simp [oneRequest, tapeFns]

theorem nonempty_runs (n : Nat)
    (prior : List (Fin v)) : Nonempty (Runs policy drafter n prior) := by
  have launches : ∀ (drafts : List (Fin v)) (tape : Nat → ℝ), ∃ rejections, ∃ before stats fresh,
      (oneRequest policy drafter prior drafts).StatsLaunched (tapeFns tape) before stats ∧
      (oneRequest policy drafter prior drafts).RejectionLaunched (tapeFns tape) stats fresh rejections := by
    intro drafts tape
    obtain ⟨_, _, ran⟩ := (oneRequest policy drafter prior drafts).exists_rejectionSampled (tapeFns tape)
    obtain ⟨before, stats, fresh, rejections, _, _, statsLaunched, _, launched, _⟩ := ran.run
    exact ⟨rejections, before, stats, fresh, statsLaunched, launched⟩
  choose rejections launched using launches
  exact ⟨⟨fun drafts _ => oneRequest policy drafter prior drafts, fun _ tape => tapeFns tape, 0,
    rejections, fun drafts tape _ => oneRequest_verifies policy drafter prior drafts tape,
    fun drafts tape _ => launched drafts tape⟩⟩

end

private def fairCoin (_ : List (Fin 2)) : Logits 2 :=
  ⟨fun _ => 0, fun _ => EReal.zero_ne_top, 0, EReal.zero_ne_bot⟩

private def firstDraft : Drafter 2 := ⟨none, fun _ => PMF.pure 0, nofun⟩

end DeepSpark

end
