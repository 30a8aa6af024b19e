import Mathlib

/-!
Speculative sampling over finite distributions.

Owns ancestral sampling from a policy, the verification of a list of drafts by a
verifier that accepts each with some probability and resamples at the first
rejection, the same verification read from a tape of independent draws, the balance
equation, and the theorem that a balanced verifier is lossless: what it emits,
continued by ancestral sampling, has the law of ancestral sampling.
-/

noncomputable section

namespace DeepSpark.Lib

open Function

open scoped ENNReal

def coin (chance : ℝ≥0∞) (le : chance ≤ 1) : PMF Bool :=
  PMF.ofFintype (fun outcome => if outcome then chance else 1 - chance) (by
    rw [Fintype.sum_bool, if_pos rfl, if_neg Bool.false_ne_true, add_tsub_cancel_of_le le])

theorem coin_bind_apply {β : Type} (chance : ℝ≥0∞) (le : chance ≤ 1) (next : Bool → PMF β) (result : β) :
    (coin chance le).bind next result =
      chance * next true result + (1 - chance) * next false result := by
  rw [PMF.bind_apply, tsum_fintype, Fintype.sum_bool]
  rfl

/-- How drafts are verified after a prefix: the probability to accept a draft, and the
distribution of the token emitted in place of a rejected one. -/
structure Verifier (V : Type) where
  accept : List V → V → ℝ≥0∞
  accept_le_one : ∀ prior draft, accept prior draft ≤ 1
  residual : List V → V → PMF V

section

variable {V : Type} (policy proposal : List V → PMF V) (verifier : Verifier V)

/-- A number of tokens, each drawn given those before it. -/
def ancestral : Nat → List V → PMF (List V)
  | 0, _ => PMF.pure []
  | count + 1, prior => (policy prior).bind fun token =>
    (ancestral count (prior ++ [token])).map (token :: ·)

/-- Verify a list of drafts: emit the accepted ones, then one token in place of the
first rejected draft, or one from the policy behind all of them. -/
def verify : List V → List V → PMF (List V)
  | [], prior => (policy prior).map fun token => [token]
  | draft :: rest, prior =>
    (coin (verifier.accept prior draft) (verifier.accept_le_one prior draft)).bind fun accepted =>
      if accepted then (verify rest (prior ++ [draft])).map (draft :: ·)
      else (verifier.residual prior draft).map fun token => [token]

/-- One round: the drafts are drawn from the proposal, then verified. -/
def speculate (count : Nat) (prior : List V) : PMF (List V) :=
  (ancestral proposal count prior).bind fun drafts => verify policy verifier drafts prior

/-- What was emitted, continued by ancestral sampling up to a number of tokens. -/
def continued (count : Nat) (prior emitted : List V) : PMF (List V) :=
  (ancestral policy (count - emitted.length) (prior ++ emitted)).map (emitted ++ ·)

/-- One step of the verifier, on a draft from the proposal, draws from the policy. -/
def Balanced : Prop :=
  ∀ prior, ((proposal prior).bind fun draft =>
    (coin (verifier.accept prior draft) (verifier.accept_le_one prior draft)).bind fun accepted =>
      if accepted then PMF.pure draft else verifier.residual prior draft) = policy prior

end

variable {V : Type} {policy proposal : List V → PMF V} {verifier : Verifier V}

/-- Drafts that follow a rejected one do not matter: drawing and verifying can be
interleaved. -/
theorem speculate_succ (count : Nat) (prior : List V) :
    speculate policy proposal verifier (count + 1) prior =
      (proposal prior).bind fun draft =>
        (coin (verifier.accept prior draft) (verifier.accept_le_one prior draft)).bind fun accepted =>
          if accepted then
            (speculate policy proposal verifier count (prior ++ [draft])).map (draft :: ·)
          else (verifier.residual prior draft).map fun token => [token] := by
  rw [speculate, ancestral, PMF.bind_bind]
  congr 1
  funext draft
  rw [PMF.bind_map]
  show ((ancestral proposal count (prior ++ [draft])).bind fun drafts =>
    (coin _ _).bind fun accepted => _) = _
  rw [PMF.bind_comm]
  congr 1
  funext accepted
  cases accepted with
  | true =>
    show ((ancestral proposal count (prior ++ [draft])).bind fun drafts =>
      (verify policy verifier drafts (prior ++ [draft])).map (draft :: ·)) = _
    rw [if_pos rfl, speculate, PMF.map_bind]
  | false => exact PMF.bind_const _ _

/-- A continuation of a list that starts with a token starts with it. -/
theorem continued_cons (count : Nat) (prior emitted : List V) (token : V) :
    continued policy (count + 1) prior (token :: emitted) =
      (continued policy count (prior ++ [token]) emitted).map (token :: ·) := by
  rw [continued, continued, PMF.map_comp, List.length_cons, Nat.add_sub_add_right,
    List.append_assoc]
  rfl

theorem speculate_lossless (balanced : Balanced policy proposal verifier) (count : Nat)
    (prior : List V) :
    ((speculate policy proposal verifier count prior).bind
      (continued policy (count + 1) prior)) = ancestral policy (count + 1) prior := by
  induction count generalizing prior with
  | zero =>
    rw [speculate, ancestral, PMF.pure_bind, verify, PMF.bind_map]
    rfl
  | succ count ih =>
    -- both outcomes of the first draft leave a token that ancestral sampling continues
    have outcomes : ∀ (draft : V) (accepted : Bool),
        ((if accepted then
            (speculate policy proposal verifier count (prior ++ [draft])).map (draft :: ·)
          else (verifier.residual prior draft).map fun token => [token]).bind
            (continued policy (count + 1 + 1) prior)) =
          (if accepted then PMF.pure draft else verifier.residual prior draft).bind fun token =>
            (ancestral policy (count + 1) (prior ++ [token])).map (token :: ·) := by
      intro draft accepted
      cases accepted with
      | true =>
        rw [if_pos rfl, if_pos rfl, PMF.bind_map, PMF.pure_bind,
          ← ih (prior ++ [draft]), PMF.map_bind]
        congr 1
        funext emitted
        exact continued_cons (count + 1) prior emitted draft
      | false =>
        rw [if_neg Bool.false_ne_true, if_neg Bool.false_ne_true, PMF.bind_map]
        rfl
    calc (speculate policy proposal verifier (count + 1) prior).bind
          (continued policy (count + 1 + 1) prior)
        = (proposal prior).bind fun draft =>
            (coin (verifier.accept prior draft) (verifier.accept_le_one prior draft)).bind
              fun accepted => (if accepted then PMF.pure draft
                else verifier.residual prior draft).bind fun token =>
                  (ancestral policy (count + 1) (prior ++ [token])).map (token :: ·) := by
          rw [speculate_succ, PMF.bind_bind]
          congr 1
          funext draft
          rw [PMF.bind_bind]
          congr 1
          funext accepted
          exact outcomes draft accepted
      _ = (policy prior).bind fun token =>
            (ancestral policy (count + 1) (prior ++ [token])).map (token :: ·) := by
          rw [← balanced prior, PMF.bind_bind]
          congr 1
          funext draft
          rw [PMF.bind_bind]
      _ = ancestral policy (count + 1 + 1) prior := rfl

/-- Ancestral sampling never returns another number of tokens. -/
theorem ancestral_eq_zero {V : Type} {policy : List V → PMF V} {count : Nat} {prior tokens : List V}
    (differs : tokens.length ≠ count) : ancestral policy count prior tokens = 0 := by
  rw [PMF.apply_eq_zero_iff]
  intro member
  apply differs
  clear differs
  induction count generalizing prior tokens with
  | zero =>
    rw [ancestral, PMF.support_pure] at member
    rw [member]
    rfl
  | succ count ih =>
    rw [ancestral, PMF.mem_support_bind_iff] at member
    obtain ⟨token, -, inRest⟩ := member
    obtain ⟨rest, isRest, rfl⟩ := (PMF.mem_support_map_iff _ _ _).mp inRest
    rw [List.length_cons, ih isRest]

/-! ## Verification from a tape of draws -/

section

open MeasureTheory

/-- What is emitted after a number of drafts were accepted. -/
def emitted {V : Type} (policy : List V → PMF V) (verifier : Verifier V) (drafts prior : List V)
    (count : Nat) : PMF (List V) :=
  (match drafts[count]? with
    | some draft => verifier.residual (prior ++ drafts.take count) draft
    | none => policy (prior ++ drafts)).map fun token => drafts.take count ++ [token]

/-- The number of tests at the front of a tape that pass, out of the first `total`. -/
structure PassedTests {X : Type} (test : Nat → Set X) (total : Nat) (tape : Nat → X) (count : Nat) :
    Prop where
  le : count ≤ total
  passed : ∀ i < count, tape i ∈ test i
  stopped : count < total → tape count ∉ test count

theorem PassedTests.unique {X : Type} {test : Nat → Set X} {total : Nat} {tape : Nat → X}
    {first second : Nat} (isFirst : PassedTests test total tape first)
    (isSecond : PassedTests test total tape second) : first = second := by
  rcases lt_trichotomy first second with below | same | above
  · exact absurd (isSecond.passed first below) (isFirst.stopped (below.trans_le isSecond.le))
  · exact same
  · exact absurd (isFirst.passed second above) (isSecond.stopped (above.trans_le isFirst.le))

variable {X : Type} [MeasurableSpace X] (draw : Measure X) [IsProbabilityMeasure draw]

abbrev tapeOf : Measure (Nat → X) := Measure.infinitePi fun _ => draw

def passing (test : Nat → Set X) (count : Nat) : Set (Nat → X) :=
  Set.pi (Finset.range count) test

theorem measurableSet_passing {test : Nat → Set X} (measurable : ∀ i, MeasurableSet (test i))
    (count : Nat) : MeasurableSet (passing test count) :=
  MeasurableSet.pi (Finset.countable_toSet _) fun i _ => measurable i

theorem tapeOf_passing {test : Nat → Set X} (measurable : ∀ i, MeasurableSet (test i)) (count : Nat) :
    tapeOf draw (passing test count) = ∏ i ∈ Finset.range count, draw (test i) :=
  Measure.infinitePi_pi _ fun i _ => measurable i

omit [MeasurableSpace X] in
/-- The tapes that pass one test more, and those that fail it. -/
theorem passing_succ (test : Nat → Set X) (count : Nat) :
    passing test count = passing test (count + 1) ∪
      passing (update test count (test count)ᶜ) (count + 1) := by
  have below : ∀ i < count, update test count (test count)ᶜ i = test i :=
    fun i lt => update_of_ne lt.ne _ _
  have here : update test count (test count)ᶜ count = (test count)ᶜ :=
    update_self _ _ _
  ext tape
  simp only [passing, Set.mem_union, Set.mem_pi, Finset.coe_range, Set.mem_Iio]
  constructor
  · intro passes
    by_cases passesHere : tape count ∈ test count
    · left
      intro i lt
      rcases Nat.lt_succ_iff_lt_or_eq.mp lt with earlier | rfl
      · exact passes i earlier
      · exact passesHere
    · right
      intro i lt
      rcases Nat.lt_succ_iff_lt_or_eq.mp lt with earlier | rfl
      · rw [below i earlier]
        exact passes i earlier
      · rw [here]
        exact passesHere
  · rintro (passes | fails) i lt
    · exact passes i (by omega)
    · have passes := fails i (by omega)
      rwa [below i lt] at passes

omit [MeasurableSpace X] in
theorem disjoint_passing (test : Nat → Set X) (count : Nat) :
    Disjoint (passing test (count + 1))
      (passing (update test count (test count)ᶜ) (count + 1)) := by
  apply Set.disjoint_left.mpr
  intro tape passes fails
  have outside := fails count (by simp)
  rw [update_self] at outside
  exact outside (passes count (by simp))

/-- Reading the tests of the drafts from a tape emits what flipping the verifier's
coins one after the other emits. -/
theorem lintegral_emitted {V : Type} {policy : List V → PMF V} {verifier : Verifier V}
    {drafts prior : List V} {test : Nat → Set X} {passed : (Nat → X) → Nat}
    (measurable : ∀ i, MeasurableSet (test i))
    (chance : ∀ (done rest : List V) (draft : V), drafts = done ++ draft :: rest →
      draw (test done.length) = verifier.accept (prior ++ done) draft)
    (isPassed : ∀ tape, PassedTests test drafts.length tape (passed tape)) (result : List V) :
    ∫⁻ tape, emitted policy verifier drafts prior (passed tape) result ∂tapeOf draw =
      verify policy verifier drafts prior result := by
  -- over the tapes that pass the tests of the drafts already done
  have rest_eq : ∀ (rest done : List V), drafts = done ++ rest →
      ∫⁻ tape in passing test done.length,
          emitted policy verifier drafts prior (passed tape) result ∂tapeOf draw =
        (∏ i ∈ Finset.range done.length, draw (test i)) *
          ((verify policy verifier rest (prior ++ done)).map (done ++ ·)) result := by
    intro rest
    induction rest with
    | nil =>
      intro done split
      rw [List.append_nil] at split
      have all : Set.EqOn (fun tape => emitted policy verifier drafts prior (passed tape) result)
          (fun _ => emitted policy verifier drafts prior done.length result)
          (passing test done.length) := by
        intro tape passes
        have isAll : PassedTests test drafts.length tape done.length :=
          ⟨by rw [split], fun i lt => passes i (by simpa using lt),
            fun lt => absurd lt (by rw [split]; exact lt_irrefl _)⟩
        show emitted _ _ _ _ (passed tape) result = _
        rw [(isPassed tape).unique isAll]
      rw [setLIntegral_congr_fun (measurableSet_passing measurable _) all, setLIntegral_const,
        tapeOf_passing draw measurable, mul_comm]
      congr 1
      rw [verify, PMF.map_comp, emitted, ← split, List.take_length, List.getElem?_length]
      rfl
    | cons draft rest ih =>
      intro done split
      have next : drafts = (done ++ [draft]) ++ rest := by rw [split, List.append_assoc]; rfl
      have isChance := chance done rest draft split
      have fails : Set.EqOn
          (fun tape => emitted policy verifier drafts prior (passed tape) result)
          (fun _ => emitted policy verifier drafts prior done.length result)
          (passing (update test done.length (test done.length)ᶜ) (done.length + 1)) := by
        intro tape passes
        have isDone : PassedTests test drafts.length tape done.length := by
          refine ⟨by rw [split, List.length_append]; omega, fun i lt => ?_, fun _ => ?_⟩
          · have here := passes i (by simp; omega)
            rwa [update_of_ne lt.ne] at here
          · have here := passes done.length (by simp)
            rwa [update_self] at here
        show emitted _ _ _ _ (passed tape) result = _
        rw [(isPassed tape).unique isDone]
      have measurableFails : ∀ i, MeasurableSet
          (update test done.length (test done.length)ᶜ i) := by
        intro i
        by_cases here : i = done.length
        · rw [here, update_self]
          exact (measurable _).compl
        · rw [update_of_ne here]
          exact measurable i
      have failChance : (∏ i ∈ Finset.range (done.length + 1),
          draw (update test done.length (test done.length)ᶜ i)) =
          (∏ i ∈ Finset.range done.length, draw (test i)) *
            (1 - verifier.accept (prior ++ done) draft) := by
        rw [Finset.prod_range_succ, update_self, prob_compl_eq_one_sub (measurable _),
          isChance]
        congr 1
        apply Finset.prod_congr rfl
        intro i member
        rw [update_of_ne (Finset.mem_range.mp member).ne]
      have atDraft : drafts[done.length]? = some draft := by rw [split]; simp
      have front : drafts.take done.length = done := by rw [split]; simp
      have passes := ih (done ++ [draft]) next
      rw [List.length_append, List.length_singleton] at passes
      rw [passing_succ, lintegral_union (measurableSet_passing measurableFails _)
        (disjoint_passing test _), passes,
        setLIntegral_congr_fun (measurableSet_passing measurableFails _) fails, setLIntegral_const,
        tapeOf_passing draw measurableFails, failChance, Finset.prod_range_succ, isChance, verify,
        PMF.map_bind, coin_bind_apply, if_pos rfl, if_neg Bool.false_ne_true, emitted, atDraft, front,
        PMF.map_comp, PMF.map_comp, List.append_assoc, mul_add, mul_assoc]
      congr 1
      · congr 4
        funext tail
        exact List.append_assoc done [draft] tail
      · rw [mul_comm, mul_assoc]
        rfl
  have whole := rest_eq drafts [] rfl
  have everything : passing test 0 = Set.univ := by simp [passing]
  rw [List.length_nil, everything, Measure.restrict_univ, Finset.prod_range_zero, one_mul,
    List.append_nil] at whole
  rw [whole]
  exact congrFun (congrArg _ (PMF.map_id _)) result

end

/-! ## Balanced verifiers -/

/-- The probability that one step of a verifier leaves a token. -/
theorem step_apply [Fintype V] [DecidableEq V] (prior : List V) (token : V) :
    ((proposal prior).bind fun draft =>
      (coin (verifier.accept prior draft) (verifier.accept_le_one prior draft)).bind fun accepted =>
        if accepted then PMF.pure draft else verifier.residual prior draft) token =
      ∑ draft, proposal prior draft * (verifier.accept prior draft * (if token = draft then 1 else 0) +
        (1 - verifier.accept prior draft) * verifier.residual prior draft token) := by
  rw [PMF.bind_apply, tsum_fintype]
  apply Finset.sum_congr rfl
  intro draft _
  rw [coin_bind_apply, if_pos rfl, if_neg Bool.false_ne_true, PMF.pure_apply]
  congr

/-- What one distribution has beyond another is as much as the other has beyond it. -/
theorem sum_excess_comm [Fintype V] (left right : PMF V) :
    ∑ token, (left token - right token) = ∑ token, (right token - left token) := by
  have total : ∀ law : PMF V, ∑ token, law token = 1 := by
    intro law
    have sums := law.tsum_coe
    rwa [tsum_fintype] at sums
  have split : ∀ first second : PMF V,
      ∑ token, min (first token) (second token) + ∑ token, (first token - second token) = 1 := by
    intro first second
    rw [← Finset.sum_add_distrib, ← total first]
    apply Finset.sum_congr rfl
    intro token _
    rw [add_comm]
    exact tsub_add_min
  have finite : ∑ token, min (left token) (right token) ≠ ∞ := by
    apply ne_top_of_le_ne_top ENNReal.one_ne_top
    rw [← split left right]
    exact le_self_add
  have leftSplit := split left right
  have rightSplit := split right left
  simp only [min_comm (right _) (left _)] at rightSplit
  exact (ENNReal.add_right_inj finite).mp (leftSplit.trans rightSplit.symm)

/-- Accepting with the ratio of the probabilities, and resampling from the normalised
excess, leaves the policy's distribution. -/
theorem balanced_of_ratio [Fintype V] [DecidableEq V]
    (accept_eq : ∀ prior token, proposal prior token * verifier.accept prior token =
      min (proposal prior token) (policy prior token))
    (residual_eq : ∀ prior draft token, ∑ other, (policy prior other - proposal prior other) ≠ 0 →
      (∑ other, (policy prior other - proposal prior other)) * verifier.residual prior draft token =
        policy prior token - proposal prior token) :
    Balanced policy proposal verifier := by
  intro prior
  ext token
  have finite : ∀ draft, proposal prior draft ≠ ∞ := fun draft => PMF.apply_ne_top _ _
  have rejected : ∀ draft, proposal prior draft * (1 - verifier.accept prior draft) =
      proposal prior draft - policy prior draft := by
    intro draft
    rw [ENNReal.mul_sub (fun _ _ => finite draft), mul_one, accept_eq, tsub_min]
  have acceptedPart : ∑ draft, proposal prior draft * (verifier.accept prior draft *
      (if token = draft then 1 else 0)) = min (proposal prior token) (policy prior token) := by
    rw [← accept_eq]
    simp only [mul_ite, mul_one, mul_zero, Finset.sum_ite_eq, Finset.mem_univ, if_true]
  have rejectedPart : ∑ draft, proposal prior draft * ((1 - verifier.accept prior draft) *
      verifier.residual prior draft token) = policy prior token - proposal prior token := by
    simp only [← mul_assoc, rejected]
    have excess := sum_excess_comm (policy prior) (proposal prior)
    by_cases isZero : ∑ other, (policy prior other - proposal prior other) = 0
    · -- nothing is ever rejected
      have noExcess : policy prior token - proposal prior token = 0 :=
        (Finset.sum_eq_zero_iff.mp isZero) token (Finset.mem_univ token)
      rw [isZero] at excess
      rw [noExcess]
      apply Finset.sum_eq_zero
      intro draft member
      rw [(Finset.sum_eq_zero_iff.mp excess.symm) draft member, zero_mul]
    · have total : ∑ other, (policy prior other - proposal prior other) ≠ ∞ := by
        apply ENNReal.sum_ne_top.mpr
        intro other _
        exact ne_top_of_le_ne_top (PMF.apply_ne_top (policy prior) other) tsub_le_self
      have residual : ∀ draft, verifier.residual prior draft token =
          (policy prior token - proposal prior token) /
            ∑ other, (policy prior other - proposal prior other) := by
        intro draft
        rw [ENNReal.eq_div_iff isZero total]
        exact residual_eq prior draft token isZero
      simp only [residual]
      rw [← Finset.sum_mul, ← excess]
      exact ENNReal.mul_div_cancel isZero total
  rw [step_apply]
  simp only [mul_add, Finset.sum_add_distrib]
  rw [acceptedPart, rejectedPart, add_comm, min_comm]
  exact tsub_add_min

/-- Accepting a draft with its own probability, and resampling from the policy without
it, leaves the policy's distribution, wherever the drafts come from. -/
theorem balanced_of_oneHot [Fintype V] [DecidableEq V]
    (accept_eq : ∀ prior draft, verifier.accept prior draft = policy prior draft)
    (residual_eq : ∀ prior draft token, policy prior draft ≠ 1 →
      (1 - policy prior draft) * verifier.residual prior draft token =
        if token = draft then 0 else policy prior token) :
    Balanced policy proposal verifier := by
  intro prior
  ext token
  have step : ∀ draft, verifier.accept prior draft * (if token = draft then 1 else 0) +
      (1 - verifier.accept prior draft) * verifier.residual prior draft token =
        policy prior token := by
    intro draft
    rw [accept_eq]
    by_cases isCertain : policy prior draft = 1
    · rw [isCertain, tsub_self, zero_mul, add_zero, one_mul]
      split
      next same => rw [same, isCertain]
      next differs =>
        -- the other tokens have no probability left
        have only : (policy prior).support = {draft} := (PMF.apply_eq_one_iff _ _).mp isCertain
        rw [eq_comm, PMF.apply_eq_zero_iff, only]
        exact differs
    · rw [residual_eq prior draft token isCertain]
      split
      next same => rw [mul_one, add_zero, same]
      next => rw [mul_zero, zero_add]
  rw [step_apply]
  simp only [step]
  rw [← Finset.sum_mul]
  have sums := (proposal prior).tsum_coe
  rw [tsum_fintype] at sums
  rw [sums, one_mul]

end DeepSpark.Lib

end
