import DeepSpark.Lib.SpeculativeSampling
import DeepSpark.Worker.RejectionSampler

/-!
The verification kernels in exact arithmetic.

Owns the instance of the device at the extended reals, rows of logits with their
softmax, the log-sum-exp the kernels compute from block statistics, the acceptance
test as a comparison of probabilities, and the residual logits as a difference of
probabilities.
-/

noncomputable section

namespace DeepSpark

open Lib
open scoped ENNReal

noncomputable instance : DeviceFloat EReal where

structure ExactFns (fns : DeviceFns EReal) : Prop where
  exp : ∀ value, fns.exp value = (EReal.exp value : EReal)
  log : ∀ value, fns.log value = ENNReal.log value.toENNReal

/-! ## Rows of logits -/

def expTotal (row : Nat → EReal) (count : Nat) : ℝ≥0∞ := ∑ token ∈ Finset.range count, EReal.exp (row token)

/-- A draw from the softmax of a row. A row of minus infinities has its first maximum
at the first token. -/
def softmax {v : Nat} [NeZero v] (row : Fin v → EReal) : PMF (Fin v) :=
  if proper : ∑ token, EReal.exp (row token) ≠ 0 ∧ ∑ token, EReal.exp (row token) ≠ ∞ then
    PMF.normalize (fun token => EReal.exp (row token))
      (by rw [tsum_fintype]; exact proper.1) (by rw [tsum_fintype]; exact proper.2)
  else PMF.pure 0

theorem softmax_apply {v : Nat} [NeZero v] {row : Fin v → EReal}
    (notZero : ∑ token, EReal.exp (row token) ≠ 0) (notTop : ∑ token, EReal.exp (row token) ≠ ∞)
    (token : Fin v) :
    softmax row token = EReal.exp (row token) / ∑ other, EReal.exp (row other) := by
  rw [softmax, dif_pos ⟨notZero, notTop⟩, PMF.normalize_apply, tsum_fintype, div_eq_mul_inv]

/-- A row of logits a model returns: no logit is infinite, and some token is possible. -/
structure Logits (v : Nat) where
  row : Fin v → EReal
  notTop : ∀ token, row token ≠ ⊤
  possible : ∃ token, row token ≠ ⊥

namespace Logits

variable {v : Nat} (logits : Logits v)

def total : ℝ≥0∞ := ∑ token, EReal.exp (logits.row token)

theorem total_ne_zero : logits.total ≠ 0 := by
  obtain ⟨token, notBot⟩ := logits.possible
  intro isZero
  have none := (Finset.sum_eq_zero_iff.mp isZero) token (Finset.mem_univ token)
  exact notBot (EReal.exp_eq_zero_iff.mp none)

theorem total_ne_top : logits.total ≠ ∞ := by
  apply ENNReal.sum_ne_top.mpr
  intro token _ isTop
  exact logits.notTop token (EReal.exp_eq_top_iff.mp isTop)

def prob (token : Fin v) : ℝ≥0∞ := EReal.exp (logits.row token) / logits.total

theorem softmax_eq_prob [NeZero v] (token : Fin v) : softmax logits.row token = logits.prob token :=
  softmax_apply logits.total_ne_zero logits.total_ne_top token

theorem prob_ne_top (token : Fin v) : logits.prob token ≠ ∞ := by
  apply ENNReal.div_ne_top _ logits.total_ne_zero
  intro isTop
  exact logits.notTop token (EReal.exp_eq_top_iff.mp isTop)

theorem log_prob (token : Fin v) :
    logits.row token - ENNReal.log logits.total = ENNReal.log (logits.prob token) := by
  rw [prob, div_eq_mul_inv, ENNReal.log_mul_add, EReal.log_exp, ENNReal.log_inv, sub_eq_add_neg]

end Logits

/-! ## Block statistics -/

section

variable {fns : DeviceFns EReal} (exact : ExactFns fns)

theorem coe_sum_range (value : Nat → ℝ≥0∞) (count : Nat) :
    ((List.range count).map fun i => (value i : EReal)).sum =
      ((∑ i ∈ Finset.range count, value i : ℝ≥0∞) : EReal) := by
  induction count with
  | zero => rfl
  | succ count ih =>
    rw [List.range_succ, List.map_append, List.sum_append, ih,
      Finset.sum_range_succ, EReal.coe_ennreal_add]
    simp

theorem exp_sub_mul_exp {value shift : EReal} (notBot : shift ≠ ⊥) (notTop : shift ≠ ⊤) :
    EReal.exp (value - shift) * EReal.exp shift = EReal.exp value := by
  lift shift to ℝ using ⟨notTop, notBot⟩
  rw [← EReal.exp_add, EReal.sub_add_cancel]

private theorem max_ne_top {lanes : Nat → EReal} {size : Nat} (positive : 0 < size)
    (notTop : ∀ lane < size, lanes lane ≠ ⊤) : lanes (argmaxBelow lanes size) ≠ ⊤ :=
  notTop _ (argmaxBelow_isFirst lanes positive).lt

include exact

/-- The sum of a block, scaled by the exponential of its maximum, is that of its
exponentials. -/
theorem computeBlockMaxAndSumexp_exact {lanes : Nat → EReal} {size : Nat} (positive : 0 < size)
    (notTop : ∀ lane < size, lanes lane ≠ ⊤) :
    ∃ sumexp : ℝ≥0∞, (computeBlockMaxAndSumexp fns lanes size).2 = sumexp ∧
      sumexp * EReal.exp (computeBlockMaxAndSumexp fns lanes size).1 = expTotal lanes size := by
  set blockMax := lanes (argmaxBelow lanes size) with isMax
  have isFirst := argmaxBelow_isFirst lanes positive
  by_cases aboveBot : ⊥ < blockMax
  · refine ⟨∑ lane ∈ Finset.range size, EReal.exp (lanes lane - blockMax), ?_, ?_⟩
    · show (if ⊥ < blockMax then _ else _) = _
      rw [if_pos aboveBot]
      simp only [exact.exp]
      exact coe_sum_range _ size
    · show _ * EReal.exp blockMax = _
      rw [Finset.sum_mul]
      apply Finset.sum_congr rfl
      intro lane _
      exact exp_sub_mul_exp aboveBot.ne' (max_ne_top positive notTop)
  · have isBot : blockMax = ⊥ := not_bot_lt_iff.mp aboveBot
    refine ⟨0, if_neg aboveBot, ?_⟩
    rw [zero_mul, eq_comm]
    apply Finset.sum_eq_zero
    intro lane inBlock
    have le := isFirst.max lane (Finset.mem_range.mp inBlock)
    rw [← isMax, isBot] at le
    rw [le_bot_iff.mp le, EReal.exp_bot]

omit exact in
theorem sum_expTotal_tile (row : Nat → EReal) {count size blocks : Nat} (positive : 0 < size)
    (covers : cdiv count size ≤ blocks) :
    ∑ block ∈ Finset.range blocks, expTotal (tile row count size block) size = expTotal row count := by
  have flat : ∀ blocks, ∑ block ∈ Finset.range blocks, expTotal (tile row count size block) size =
      ∑ index ∈ Finset.range (blocks * size), if index < count then EReal.exp (row index) else 0 := by
    intro blocks
    induction blocks with
    | zero => rw [Nat.zero_mul, Finset.sum_range_zero, Finset.sum_range_zero]
    | succ blocks ih =>
      rw [Finset.sum_range_succ, ih, Nat.add_mul, Nat.one_mul, Finset.sum_range_add]
      congr 1
      apply Finset.sum_congr rfl
      intro lane _
      rw [tile]
      split
      next => rfl
      next => exact EReal.exp_bot
  have enough : count ≤ blocks * size := by
    by_contra short
    have beyond := (lt_cdiv_iff positive).mpr (not_le.mp short)
    omega
  rw [flat, ← Nat.add_sub_cancel' enough, Finset.sum_range_add, expTotal]
  have front : ∑ index ∈ Finset.range count, (if index < count then EReal.exp (row index) else 0) =
      ∑ index ∈ Finset.range count, EReal.exp (row index) := by
    apply Finset.sum_congr rfl
    intro index below
    rw [if_pos (Finset.mem_range.mp below)]
  have back : ∑ index ∈ Finset.range (blocks * size - count),
      (if count + index < count then EReal.exp (row (count + index)) else 0) = 0 := by
    apply Finset.sum_eq_zero
    intro index _
    rw [if_neg (by omega)]
  rw [front, back, add_zero]

/-- From the statistics of its blocks, the kernels compute the log-sum-exp of a row. -/
theorem computeGlobalLse_exact {row localMax localSumexp : Nat → EReal} {count size padded : Nat}
    (positive : 0 < size) (fits : cdiv count size ≤ padded)
    (stats : ∀ block < cdiv count size, (localMax block, localSumexp block) =
      computeBlockMaxAndSumexp fns (tile row count size block) size)
    (notTop : ∀ token < count, row token ≠ ⊤) (possible : ∃ token < count, row token ≠ ⊥) :
    computeGlobalLse fns localMax localSumexp (cdiv count size) padded =
      ENNReal.log (expTotal row count) := by
  set maxes : Nat → EReal := fun block => if block < cdiv count size then localMax block else ⊥ with isMaxes
  set globalMax := maxes (argmaxBelow maxes padded) with isGlobal
  have tileNotTop : ∀ block, ∀ lane < size, tile row count size block lane ≠ ⊤ := by
    intro block lane _
    rw [tile]
    split
    next below => exact notTop _ below
    next => exact bot_ne_top
  have isMax : ∀ block < cdiv count size, maxes block = tile row count size block
      (argmaxBelow (tile row count size block) size) := by
    intro block inRange
    rw [isMaxes]
    show (if block < cdiv count size then localMax block else ⊥) = _
    rw [if_pos inRange]
    exact congrArg Prod.fst (stats block inRange)
  obtain ⟨token, below, notBot⟩ := possible
  have tokenTile : token / size < cdiv count size :=
    (lt_cdiv_iff positive).mpr ((Nat.div_mul_le_self token size).trans_lt below)
  have isFirst := argmaxBelow_isFirst maxes ((Nat.zero_le _).trans_lt (tokenTile.trans_le fits))
  have globalNotTop : globalMax ≠ ⊤ := by
    rw [isGlobal]
    by_cases inRange : argmaxBelow maxes padded < cdiv count size
    · rw [isMax _ inRange]
      exact max_ne_top positive (tileNotTop _)
    · have isBot : maxes (argmaxBelow maxes padded) = ⊥ := if_neg inRange
      rw [isBot]
      exact bot_ne_top
  have globalNotBot : globalMax ≠ ⊥ := by
    have inTile : tile row count size (token / size) (token % size) = row token := by
      rw [tile, Nat.div_add_mod', if_pos below]
    have tokenLe := (argmaxBelow_isFirst (tile row count size (token / size)) positive).max
      (token % size) (Nat.mod_lt token positive)
    rw [inTile, ← isMax _ tokenTile] at tokenLe
    have le := tokenLe.trans (isFirst.max _ (tokenTile.trans_le fits))
    exact fun isBot => notBot (le_bot_iff.mp (le.trans_eq isBot))
  -- each block contributes its exponentials, scaled by the global maximum
  have blocks : ∀ block, ∃ scaled : ℝ≥0∞,
      (if block < cdiv count size then localSumexp block else 0) * fns.exp (maxes block - globalMax) =
        scaled ∧ scaled * EReal.exp globalMax =
          if block < cdiv count size then expTotal (tile row count size block) size else 0 := by
    intro block
    by_cases inRange : block < cdiv count size
    · obtain ⟨sumexp, isSumexp, scaled⟩ :=
        computeBlockMaxAndSumexp_exact exact positive (tileNotTop block)
      rw [← stats block inRange] at isSumexp scaled
      have isLocal : maxes block = localMax block := if_pos inRange
      refine ⟨sumexp * EReal.exp (maxes block - globalMax), ?_, ?_⟩
      · rw [if_pos inRange, exact.exp, EReal.coe_ennreal_mul]
        exact congrArg (· * _) isSumexp
      · rw [if_pos inRange, mul_assoc, exp_sub_mul_exp globalNotBot globalNotTop, isLocal]
        exact scaled
    · exact ⟨0, by rw [if_neg inRange, zero_mul]; rfl, by rw [if_neg inRange, zero_mul]⟩
  choose scaled isScaled scaledTotal using blocks
  have total : ((List.range padded).map fun block =>
      (if block < cdiv count size then localSumexp block else 0) *
        fns.exp (maxes block - globalMax)).sum =
      ((∑ block ∈ Finset.range padded, scaled block : ℝ≥0∞) : EReal) := by
    simp only [isScaled]
    exact coe_sum_range scaled padded
  have unscaled : (∑ block ∈ Finset.range padded, scaled block) * EReal.exp globalMax =
      expTotal row count := by
    rw [Finset.sum_mul, ← Nat.add_sub_cancel' fits, Finset.sum_range_add,
      ← sum_expTotal_tile row positive (le_refl (cdiv count size))]
    have front : ∑ block ∈ Finset.range (cdiv count size), scaled block * EReal.exp globalMax =
        ∑ block ∈ Finset.range (cdiv count size), expTotal (tile row count size block) size := by
      apply Finset.sum_congr rfl
      intro block inRange
      rw [scaledTotal, if_pos (Finset.mem_range.mp inRange)]
    have back : ∑ block ∈ Finset.range (padded - cdiv count size),
        scaled (cdiv count size + block) * EReal.exp globalMax = 0 := by
      apply Finset.sum_eq_zero
      intro block _
      rw [scaledTotal, if_neg (by omega)]
    rw [front, back, add_zero]
  show globalMax + fns.log ((List.range padded).map fun block =>
    (if block < cdiv count size then localSumexp block else 0) *
      fns.exp (maxes block - globalMax)).sum = _
  rw [total, exact.log, EReal.toENNReal_coe, ← unscaled, ENNReal.log_mul_add, EReal.log_exp, add_comm]

theorem acceptsDraft_exact (u : ℝ) (target draft : ℝ≥0∞) :
    acceptsDraft fns u (ENNReal.log target) (ENNReal.log draft) = true ↔
      ENNReal.ofReal u * draft < target := by
  rw [acceptsDraft, decide_eq_true_iff, exact.log, ← ENNReal.log_mul_add, ENNReal.log_lt_log_iff]
  rfl

theorem exp_residualLogit {target draft : ℝ≥0∞} (targetNotTop : target ≠ ∞) :
    EReal.exp (residualLogit fns (ENNReal.log target) (ENNReal.log draft)) = target - draft := by
  by_cases isZero : target = 0
  · have isBot : residualLogit fns (ENNReal.log target) (ENNReal.log draft) = ⊥ := by
      rw [residualLogit, isZero, ENNReal.log_zero]
      split
      next => exact EReal.bot_add _
      next => rfl
    rw [isBot, isZero, EReal.exp_bot, zero_tsub]
  · have ratio : fns.exp (ENNReal.log draft - ENNReal.log target) = ((draft / target : ℝ≥0∞) : EReal) := by
      rw [exact.exp, sub_eq_add_neg, ← ENNReal.log_inv, ← ENNReal.log_mul_add, ENNReal.exp_log,
        div_eq_mul_inv]
    have below : ((draft / target : ℝ≥0∞) : EReal) < 1 ↔ draft < target := by
      rw [← EReal.coe_ennreal_one, EReal.coe_ennreal_lt_coe_ennreal_iff,
        ENNReal.div_lt_iff (Or.inl isZero) (Or.inl targetNotTop), one_mul]
    rw [residualLogit]
    rw [ratio]
    by_cases less : draft < target
    · have rest : (1 - ((draft / target : ℝ≥0∞) : EReal)).toENNReal = 1 - draft / target := by
        rw [EReal.toENNReal_sub (EReal.coe_ennreal_nonneg _), EReal.toENNReal_coe, ← EReal.coe_ennreal_one,
          EReal.toENNReal_coe]
      rw [if_pos (below.mpr less), exact.log, rest, ← ENNReal.log_mul_add, ENNReal.exp_log,
        ENNReal.mul_sub (fun _ _ => targetNotTop), mul_one, ENNReal.mul_div_cancel isZero targetNotTop]
    · rw [if_neg fun isLess => less (below.mp isLess), EReal.exp_bot,
        tsub_eq_zero_of_le (not_lt.mp less)]

end

/-! ## Uniform draws -/

section

open MeasureTheory

/-- The law of `tl_rand64` without zero. -/
def uniform : Measure ℝ := volume.restrict (Set.Ioo 0 1)

instance : IsProbabilityMeasure uniform :=
  ⟨by rw [uniform, Measure.restrict_apply_univ, Real.volume_Ioo, sub_zero, ENNReal.ofReal_one]⟩

/-- The uniforms that accept a draft, given the probabilities of the draft. -/
def acceptingUniforms (target draft : ℝ≥0∞) : Set ℝ := {u | ENNReal.ofReal u * draft < target}

theorem measurableSet_acceptingUniforms (target draft : ℝ≥0∞) :
    MeasurableSet (acceptingUniforms target draft) :=
  measurableSet_lt (ENNReal.measurable_ofReal.mul_const draft) measurable_const

/-- A draft is accepted with the ratio of its probabilities, if that is below one. -/
theorem uniform_acceptingUniforms {target draft : ℝ≥0∞} (targetNotTop : target ≠ ∞) (notZero : draft ≠ 0)
    (notTop : draft ≠ ∞) : uniform (acceptingUniforms target draft) = min 1 (target / draft) := by
  have ratioNotTop : target / draft ≠ ∞ := ENNReal.div_ne_top targetNotTop notZero
  have isInterval : acceptingUniforms target draft ∩ Set.Ioo 0 1 =
      Set.Ioo 0 (min 1 (target / draft).toReal) := by
    ext u
    have test : 0 < u → (ENNReal.ofReal u * draft < target ↔ u < (target / draft).toReal) := by
      intro positive
      rw [← ENNReal.lt_div_iff_mul_lt (Or.inl notZero) (Or.inl notTop),
        ENNReal.ofReal_lt_iff_lt_toReal positive.le ratioNotTop]
    constructor
    · rintro ⟨accepts, positive, below⟩
      exact ⟨positive, lt_min below ((test positive).mp accepts)⟩
    · rintro ⟨positive, below⟩
      exact ⟨(test positive).mpr (below.trans_le (min_le_right _ _)), positive,
        below.trans_le (min_le_left _ _)⟩
  rw [uniform, Measure.restrict_apply (measurableSet_acceptingUniforms _ _), isInterval,
    Real.volume_Ioo, sub_zero, ENNReal.ofReal_min, ENNReal.ofReal_one, ENNReal.ofReal_toReal ratioNotTop]

theorem uniform_le_one (uniforms : Set ℝ) : uniform uniforms ≤ 1 := prob_le_one

end

end DeepSpark

end
