import DeepSpark.Eplb.Policy

/-!
The replicas that `replicate_experts` gives each expert.

Owns that the counts agree with the physical experts, for loads of any arithmetic, and that in
exact arithmetic no other counts have a smaller maximum of load per replica.
-/

namespace DeepSpark

open Lib Function

variable {W : Type} [LinearOrder W] [LoadArithmetic W] {weight : Nat → W} {numLog numPhy : Nat}

structure Replication.Counted (numLog : Nat) (replication : Replication) : Prop where
  length : replication.phy2log.length = ∑ log ∈ Finset.range numLog, replication.logcnt log
  positive : ∀ log < numLog, 1 ≤ replication.logcnt log
  count : ∀ log < numLog, replication.phy2log.count log = replication.logcnt log
  inRange : ∀ log ∈ replication.phy2log, log < numLog

namespace Replication

variable {replication : Replication}

theorem counted_range (numLog : Nat) : Counted numLog ⟨List.range numLog, fun _ => 1⟩ where
  length := by simp
  positive _ _ := Nat.le_refl 1
  count _ below := List.count_eq_one_of_mem List.nodup_range (List.mem_range.mpr below)
  inRange _ := List.mem_range.mp

theorem Counted.addReplica (counted : replication.Counted numLog) (positive : 0 < numLog) :
    (replication.addReplica weight numLog).Counted numLog := by
  unfold Replication.addReplica
  have below := (argmaxBelow_isFirst
    (fun log => LoadArithmetic.perReplica (weight log) (replication.logcnt log)) positive).lt
  generalize argmaxBelow (fun log => LoadArithmetic.perReplica (weight log) (replication.logcnt log)) numLog =
    redundant at below ⊢
  refine ⟨?_, fun log isLog => ?_, fun log isLog => ?_, fun log isPhy => ?_⟩
  · show (replication.phy2log ++ [redundant]).length = _
    rw [List.length_append, List.length_singleton, counted.length, sum_giveOne (Finset.mem_range.mpr below)]
  · show 1 ≤ giveOne replication.logcnt redundant log
    by_cases isSame : log = redundant
    · rw [isSame, giveOne, update_self]
      omega
    · rw [giveOne, update_of_ne isSame]
      exact counted.positive log isLog
  · show (replication.phy2log ++ [redundant]).count log = giveOne replication.logcnt redundant log
    rw [List.count_append, counted.count log isLog]
    by_cases isSame : log = redundant
    · rw [isSame, giveOne, update_self, List.count_singleton_self]
    · rw [giveOne, update_of_ne isSame, List.count_singleton, if_neg (by simpa using Ne.symm isSame), Nat.add_zero]
  · rcases List.mem_append.mp isPhy with isEarlier | isNew
    · exact counted.inRange log isEarlier
    · rwa [List.mem_singleton.mp isNew]

theorem counted_iterate (positive : 0 < numLog) (rounds : Nat) :
    ((Replication.addReplica weight numLog)^[rounds] ⟨List.range numLog, fun _ => 1⟩).Counted numLog ∧
      ((Replication.addReplica weight numLog)^[rounds] ⟨List.range numLog, fun _ => 1⟩).phy2log.length = numLog + rounds := by
  induction rounds with
  | zero => exact ⟨counted_range numLog, List.length_range⟩
  | succ rounds ih =>
    rw [Function.iterate_succ_apply']
    refine ⟨ih.1.addReplica positive, ?_⟩
    show (_ ++ [_]).length = _
    rw [List.length_append, ih.2, List.length_singleton, Nat.add_assoc]

end Replication

/-- What `replicate_experts` returns, for loads of any arithmetic. -/
theorem replicateExperts_counted {replication : Replication} (ran : replicateExperts weight numLog numPhy = .ok replication) :
    replication.Counted numLog ∧ replication.phy2log.length = numPhy := by
  obtain ⟨_, isEnough, ran⟩ := bind_eq_ok.mp ran
  have enough : numLog ≤ numPhy := of_decide_eq_true (pyAssert_eq_ok.mp isEnough)
  split at ran
  · cases ran
  next notEmpty =>
    cases ran
    rcases Nat.eq_zero_or_pos numLog with rfl | positive
    · have noPhy : numPhy = 0 := by omega
      subst noPhy
      exact ⟨Replication.counted_range 0, rfl⟩
    · obtain ⟨counted, length⟩ := @Replication.counted_iterate W _ _ weight numLog positive (numPhy - numLog)
      exact ⟨counted, by omega⟩

theorem replicateExperts_returns (weight : Nat → W) (positive : 0 < numLog) (enough : numLog ≤ numPhy) :
    ∃ replication, replicateExperts weight numLog numPhy = .ok replication := by
  rw [replicateExperts, decide_eq_true enough, pyAssert_true]
  exact ⟨_, if_neg fun both => Nat.ne_of_gt positive both.1⟩

section Exact

variable {weight : Nat → ℚ}

theorem apportioned_iterate (positive : 0 < numLog) (nonneg : ∀ log < numLog, 0 ≤ weight log) (rounds : Nat) :
    Apportioned (Finset.range numLog) weight
      ((Replication.addReplica weight numLog)^[rounds] ⟨List.range numLog, fun _ => 1⟩).logcnt := by
  induction rounds with
  | zero => exact fun _ _ spare => absurd (show 2 ≤ 1 from spare) (by decide)
  | succ rounds ih =>
    rw [Function.iterate_succ_apply']
    have counted := (@Replication.counted_iterate ℚ _ _ weight numLog positive rounds).1
    refine ih.giveOne (fun log isLog => nonneg log (Finset.mem_range.mp isLog))
      (fun log isLog => counted.positive log (Finset.mem_range.mp isLog)) fun log isLog => ?_
    exact (argmaxBelow_isFirst (fun log => LoadArithmetic.perReplica (weight log) (Replication.logcnt _ log))
      positive).max log (Finset.mem_range.mp isLog)

/-- In exact arithmetic `replicate_experts` gives each expert a replica, uses them all, and
minimises the maximum load of the replicas. -/
theorem replicateExperts_optimal (nonneg : ∀ log < numLog, 0 ≤ weight log) (positive : 0 < numLog)
    (enough : numLog ≤ numPhy) :
    ∃ replication, replicateExperts weight numLog numPhy = .ok replication ∧
      (∀ log < numLog, 1 ≤ replication.logcnt log) ∧
      ∑ log ∈ Finset.range numLog, replication.logcnt log = numPhy ∧
      replication.phy2log.length = numPhy ∧ (∀ log ∈ replication.phy2log, log < numLog) ∧
      (∀ log < numLog, replication.phy2log.count log = replication.logcnt log) ∧
      ∀ counts : Nat → Nat, (∀ log < numLog, 1 ≤ counts log) → ∑ log ∈ Finset.range numLog, counts log = numPhy →
        (Finset.range numLog).sup' (Finset.nonempty_range_iff.mpr (Nat.ne_of_gt positive))
            (fun log => weight log / replication.logcnt log) ≤
          (Finset.range numLog).sup' (Finset.nonempty_range_iff.mpr (Nat.ne_of_gt positive))
            fun log => weight log / counts log := by
  obtain ⟨replication, ran⟩ := replicateExperts_returns weight positive enough
  obtain ⟨counted, length⟩ := replicateExperts_counted ran
  have isSum : ∑ log ∈ Finset.range numLog, replication.logcnt log = numPhy := by rw [← counted.length, length]
  refine ⟨replication, ran, counted.positive, isSum, length, counted.inRange, counted.count, fun counts each total => ?_⟩
  have apportioned : Apportioned (Finset.range numLog) weight replication.logcnt := by
    obtain ⟨_, _, ran⟩ := bind_eq_ok.mp ran
    rw [if_neg fun both => Nat.ne_of_gt positive both.1] at ran
    cases ran
    exact apportioned_iterate positive nonneg _
  exact apportioned.sup'_le (fun log isLog => nonneg log (Finset.mem_range.mp isLog))
    (fun log isLog => each log (Finset.mem_range.mp isLog)) (total.trans isSum.symm) _

/-- Three experts and six replicas. -/
theorem replicateExperts_sixReplicas : ∃ replication,
    replicateExperts (fun log => ([6, 3, 1] : List ℚ).getD log 0) 3 6 = .ok replication ∧
      ∑ log ∈ Finset.range 3, replication.logcnt log = 6 := by
  have nonneg : ∀ log < 3, (0 : ℚ) ≤ ([6, 3, 1] : List ℚ).getD log 0 := by decide
  obtain ⟨replication, ran, _, isSum, _⟩ :=
    @replicateExperts_optimal 3 6 (fun log => ([6, 3, 1] : List ℚ).getD log 0) nonneg (by decide) (by decide)
  exact ⟨replication, ran, isSum⟩

end Exact

end DeepSpark
