import DeepSpark.Worker.CudaGraphs

/-!
The launch of one step across the data parallel ranks.

Owns the tensor the ranks reduce, the padding they derive from it, and their
agreement: every rank runs the same graph, with room for its own batch, or every
rank runs without one.
-/

namespace DeepSpark

open Lib Finset

structure DpTensor (dpSize : Nat) where
  numTokens : Fin dpSize → Nat
  cgMode : Fin dpSize → Nat
  uniformTokenCount : Fin dpSize → Nat

namespace DpTensor

variable {dpSize : Nat}

def contribution (rank : Fin dpSize) (numTokens cgMode uniformTokenCount : Nat) : DpTensor dpSize where
  numTokens := Pi.single rank numTokens
  cgMode := Pi.single rank cgMode
  uniformTokenCount := Pi.single rank uniformTokenCount

/-- `dist.all_reduce`: the sum over the ranks. -/
def allReduce (tensors : Fin dpSize → DpTensor dpSize) : DpTensor dpSize where
  numTokens := ∑ rank, (tensors rank).numTokens
  cgMode := ∑ rank, (tensors rank).cgMode
  uniformTokenCount := ∑ rank, (tensors rank).uniformTokenCount

theorem allReduce_contribution (numTokens cgMode uniformTokenCount : Fin dpSize → Nat) :
    allReduce (fun rank =>
      contribution rank (numTokens rank) (cgMode rank) (uniformTokenCount rank)) =
      ⟨numTokens, cgMode, uniformTokenCount⟩ := by
  simp only [allReduce, contribution, univ_sum_single]

end DpTensor

/-- What `dispatch_cg_and_sync_dp` is given on a rank. -/
structure RankBatch where
  cudagraphManager : Option CudaGraphManager
  numReqs : Nat
  numTokens : Nat
  uniformTokenCount : Option Nat
  needEager : Bool

section

variable {dpSize : Nat}

def RankBatch.batchDesc (batch : RankBatch) : Except PyError BatchExecutionDescriptor :=
  if batch.needEager then
    .ok (.eager batch.numTokens batch.numReqs)
  else
    match batch.cudagraphManager with
    | some manager => .ok (manager.dispatch batch.numReqs batch.numTokens batch.uniformTokenCount)
    | none => .error (.assertionError
        "cudagraph_manager should only be None during profile run, where need_eager must be True")

def RankBatch.contribution (batch : RankBatch) (rank : Fin dpSize)
    (desiredBatchDesc : BatchExecutionDescriptor) : DpTensor dpSize :=
  .contribution rank batch.numTokens desiredBatchDesc.cgMode.value
    (batch.uniformTokenCount.getD 0)

def syncedUniformTokenCount (first : Fin dpSize) (uniformTokenCounts : Fin dpSize → Nat) :
    Option Nat :=
  if uniformTokenCounts first = 0 ∨ ¬ ∀ rank, uniformTokenCounts rank = uniformTokenCounts first then
    none
  else
    some (uniformTokenCounts first)

def syncCudagraphAndDpPadding (batch : RankBatch) (rank : Fin dpSize) (reduced : DpTensor dpSize) :
    Except PyError (BatchExecutionDescriptor × Option (Fin dpSize → Nat)) := do
  if ∀ other, reduced.numTokens other = 0 then
    return (.eager 0 0, none)
  let syncedCgMode ← RuntimeMode.ofValue (univ.inf' ⟨rank, mem_univ rank⟩ reduced.cgMode)
  if syncedCgMode = .NONE then
    return (.eager batch.numTokens batch.numReqs, some reduced.numTokens)
  match batch.cudagraphManager with
  | none => throw (.assertionError ("cudagraph_manager should only be None during profile run, " ++
      "where synced_cg_mode must be NONE across all DP ranks"))
  | some manager =>
    let syncedDesc := manager.dispatch batch.numReqs (univ.sup reduced.numTokens)
      (syncedUniformTokenCount ⟨0, rank.pos⟩ reduced.uniformTokenCount)
    return (syncedDesc, some fun _ => syncedDesc.numTokens)

/-- `dispatch_cg_and_sync_dp` on one rank, given what the reduction returns. -/
def dispatchCgAndSyncDp (batch : RankBatch) (rank : Fin dpSize) (reduced : DpTensor dpSize) :
    Except PyError (BatchExecutionDescriptor × Option (Fin dpSize → Nat)) := do
  let batchDesc ← batch.batchDesc
  if dpSize = 1 then
    return (batchDesc, none)
  else
    syncCudagraphAndDpPadding batch rank reduced

/-- A launch that every rank completes: each contributes its own dispatch to the
reduction, and goes on with the sum. -/
def Launches (batches : Fin dpSize → RankBatch)
    (results : Fin dpSize → BatchExecutionDescriptor × Option (Fin dpSize → Nat)) : Prop :=
  ∃ desired : Fin dpSize → BatchExecutionDescriptor,
    (∀ rank, (batches rank).batchDesc = .ok (desired rank)) ∧
    ∀ rank, dispatchCgAndSyncDp (batches rank) rank
      (.allReduce fun other => (batches other).contribution other (desired other)) =
        .ok (results rank)

/-- A batch of the scheduler, or the batch of a rank that has nothing to run. -/
structure RankBatch.WellFormed (maxNumReqs : Nat) (batch : RankBatch) : Prop where
  tokenEach : batch.numReqs ≤ batch.numTokens
  fits : batch.numReqs ≤ maxNumReqs
  counted : batch.numTokens = 0 ∨ ∃ maxQueryLen,
    getUniformTokenCount batch.numReqs batch.numTokens maxQueryLen = .ok batch.uniformTokenCount

/-- A rank has the manager all ranks share; in the profile run it has none, and runs eager. -/
def RankBatch.Uses (manager : CudaGraphManager) (batch : RankBatch) : Prop :=
  batch.cudagraphManager = some manager ∨ batch.cudagraphManager = none ∧ batch.needEager = true

structure LaunchAgrees (manager : CudaGraphManager) (attnStates : List BatchExecutionDescriptor)
    (batches : Fin dpSize → RankBatch)
    (results : Fin dpSize → BatchExecutionDescriptor × Option (Fin dpSize → Nat)) : Prop where
  sameMode : ∀ rank other, (results rank).1.cgMode = (results other).1.cgMode
  sameDesc : ∀ rank other, (results rank).1.cgMode ≠ .NONE → (results rank).1 = (results other).1
  captured : ∀ rank, (results rank).1.cgMode ≠ .NONE → (results rank).1 ∈ attnStates ∧
    ((results rank).1.cgMode = .FULL → (results rank).1 ∈ manager.graphs)
  compatible : ∀ rank other, (results rank).1.cgMode ≠ .NONE →
    isCompatible (results rank).1 (batches other).numReqs (batches other).numTokens
      (batches other).uniformTokenCount = true
  sameAcross : ∀ rank other, (results rank).2 = (results other).2
  ownEntry : ∀ rank across, (results rank).2 = some across → across rank = (results rank).1.numTokens
  /-- No rank has the tensor: there is one rank, or none has a token to run. -/
  noTensor : ∀ rank, (results rank).2 = none →
    dpSize = 1 ∨ ∀ other, (batches other).numTokens = 0 ∧ (results other).1.numTokens = 0

end

/-! ## Agreement -/

section

variable {dpSize : Nat} {config : CudaGraphConfig} {manager : CudaGraphManager}
  {attnStates : List BatchExecutionDescriptor} {batch : RankBatch}

theorem CudaGraphManager.dispatch_zero (manager : CudaGraphManager) (numReqs : Nat)
    (uniformTokenCount : Option Nat) :
    manager.dispatch numReqs 0 uniformTokenCount = .eager 0 numReqs := by
  simp [dispatch]

namespace RankBatch

/-- A rank has a dispatch of its own: a graph of the manager that fits, or none. -/
theorem Uses.batchDesc (uses : batch.Uses manager) :
    ∃ desc, batch.batchDesc = .ok desc ∧ (desc.cgMode ≠ .NONE →
      batch.cudagraphManager = some manager ∧
      desc = manager.dispatch batch.numReqs batch.numTokens batch.uniformTokenCount) := by
  obtain isShared | ⟨_, eager⟩ := uses
  · cases eager : batch.needEager with
    | true => exact ⟨_, by rw [RankBatch.batchDesc, if_pos eager], fun isGraph => absurd rfl isGraph⟩
    | false =>
      refine ⟨_, ?_, fun _ => ⟨isShared, rfl⟩⟩
      rw [RankBatch.batchDesc, eager, isShared]
      rfl
  · exact ⟨_, by rw [RankBatch.batchDesc, if_pos eager], fun isGraph => absurd rfl isGraph⟩

/-- Only a batch with tokens asks for a graph, and its uniform count is exact. -/
theorem WellFormed.uniform (wellFormed : batch.WellFormed config.maxNumReqs)
    (nonempty : 0 < batch.numTokens) {count : Nat} (isUniform : batch.uniformTokenCount = some count) :
    count * batch.numReqs = batch.numTokens := by
  obtain isEmpty | ⟨maxQueryLen, computed⟩ := wellFormed.counted
  · omega
  · rw [isUniform] at computed
    exact (getUniformTokenCount_eq computed).symm

end RankBatch

theorem syncedUniformTokenCount_eq_some {first : Fin dpSize} {counts : Fin dpSize → Nat} {count : Nat} :
    syncedUniformTokenCount first counts = some count ↔ 0 < count ∧ ∀ rank, counts rank = count := by
  unfold syncedUniformTokenCount
  split
  next differs =>
    constructor
    · exact nofun
    · rintro ⟨positive, same⟩
      obtain isZero | differ := differs
      · rw [same first] at isZero
        omega
      · exact absurd (fun rank => (same rank).trans (same first).symm) differ
  next same =>
    rw [not_or, not_not] at same
    constructor
    · rintro ⟨rfl⟩
      exact ⟨Nat.pos_of_ne_zero same.1, same.2⟩
    · rintro ⟨_, all⟩
      rw [all first]

/-- The second dispatch: the token counts and the uniform count are those of all ranks. -/
private def redispatched (manager : CudaGraphManager) (batches : Fin dpSize → RankBatch)
    (rank : Fin dpSize) : BatchExecutionDescriptor :=
  manager.dispatch (batches rank).numReqs (univ.sup fun other => (batches other).numTokens)
    (syncedUniformTokenCount ⟨0, rank.pos⟩ fun other => (batches other).uniformTokenCount.getD 0)

section

variable {batches : Fin dpSize → RankBatch}
  (wellFormed : ∀ rank, (batches rank).WellFormed config.maxNumReqs)
  (nonempty : ∀ rank, 0 < (batches rank).numTokens)
include wellFormed nonempty

private theorem requests_fit (rank other : Fin dpSize) :
    (batches other).numReqs ≤ univ.sup (fun other => (batches other).numTokens) ∧
      ∀ queryLen, syncedUniformTokenCount ⟨0, rank.pos⟩
          (fun other => (batches other).uniformTokenCount.getD 0) = some queryLen →
        0 < queryLen ∧ (batches other).uniformTokenCount = some queryLen ∧
          queryLen * (batches other).numReqs ≤
            univ.sup (fun other => (batches other).numTokens) := by
  have isLargest : (batches other).numTokens ≤
      univ.sup (fun other => (batches other).numTokens) :=
    le_sup (f := fun other => (batches other).numTokens) (mem_univ other)
  refine ⟨(wellFormed other).tokenEach.trans isLargest, fun queryLen synced => ?_⟩
  obtain ⟨positive, same⟩ := syncedUniformTokenCount_eq_some.mp synced
  have isUniform : (batches other).uniformTokenCount = some queryLen := by
    have same := same other
    cases count : (batches other).uniformTokenCount with
    | none =>
      rw [count] at same
      exact absurd same positive.ne
    | some value =>
      rw [count] at same
      exact congrArg some same
  refine ⟨positive, isUniform, ?_⟩
  rw [(wellFormed other).uniform (nonempty other) isUniform]
  exact isLargest

private theorem redispatched_same (ready : manager.Ready config attnStates) (rank other : Fin dpSize)
    (isGraph : (redispatched manager batches rank).cgMode ≠ .NONE) :
    redispatched manager batches other = redispatched manager batches rank := by
  have fits := requests_fit wellFormed nonempty rank
  exact ready.dispatch_numReqs (wellFormed rank).fits (wellFormed other).fits (fits rank).1
    (fits other).1 (fun queryLen synced => ⟨((fits rank).2 queryLen synced).1,
      ((fits rank).2 queryLen synced).2.2, ((fits other).2 queryLen synced).2.2⟩) isGraph

private theorem redispatched_compatible (ready : manager.Ready config attnStates)
    (rank : Fin dpSize) (isGraph : (redispatched manager batches rank).cgMode ≠ .NONE) :
    isCompatible (redispatched manager batches rank) (batches rank).numReqs
      (batches rank).numTokens (batches rank).uniformTokenCount = true := by
  obtain isEager | ⟨desc, isDesc, _, _, _, compatible⟩ := ready.dispatch (batches rank).numReqs _ _
  · exact absurd (congrArg BatchExecutionDescriptor.cgMode isEager) isGraph
  rw [← isDesc] at compatible
  obtain ⟨uniform, room, covers⟩ := isCompatible_iff.mp compatible
  refine isCompatible_iff.mpr ⟨?_, room, le_trans ?_ covers⟩
  · obtain isNone | isSynced := uniform
    · exact .inl isNone
    cases synced : syncedUniformTokenCount ⟨0, rank.pos⟩
        fun other => (batches other).uniformTokenCount.getD 0 with
    | none => exact .inl (isSynced.trans synced)
    | some queryLen =>
      have own := ((requests_fit wellFormed nonempty rank rank).2 queryLen synced).2.1
      exact .inr ((isSynced.trans synced).trans own.symm)
  · exact le_sup (f := fun other => (batches other).numTokens) (mem_univ rank)

omit wellFormed nonempty in
private theorem redispatched_eager (ready : manager.Ready config attnStates) (rank : Fin dpSize)
    (isEager : (redispatched manager batches rank).cgMode = .NONE) :
    (redispatched manager batches rank).numTokens =
      univ.sup fun other => (batches other).numTokens := by
  obtain eager | ⟨desc, isDesc, wellShaped, _⟩ := ready.dispatch (batches rank).numReqs _ _
  · exact congrArg BatchExecutionDescriptor.numTokens eager
  · rw [← isDesc] at wellShaped
    exact absurd isEager wellShaped.isGraph

private theorem redispatched_agrees (ready : manager.Ready config attnStates) :
    LaunchAgrees manager attnStates batches fun rank =>
      (redispatched manager batches rank, some fun _ => (redispatched manager batches rank).numTokens) := by
  have same (rank other : Fin dpSize)
      (isGraph : (redispatched manager batches rank).cgMode ≠ .NONE) :=
    redispatched_same wellFormed nonempty ready rank other isGraph
  have sameMode (rank other : Fin dpSize) :
      (redispatched manager batches rank).cgMode = (redispatched manager batches other).cgMode := by
    by_cases isEager : (redispatched manager batches rank).cgMode = .NONE
    · by_contra differ
      rw [isEager] at differ
      rw [same other rank (Ne.symm differ)] at isEager
      exact differ isEager.symm
    · rw [same rank other isEager]
  exact {
    sameMode
    sameDesc := fun rank other isGraph => (same rank other isGraph).symm
    captured := fun rank isGraph => by
      obtain eager | ⟨desc, isDesc, _, inStates, inGraphs, _⟩ :=
        ready.dispatch (batches rank).numReqs _ _
      · exact absurd (congrArg BatchExecutionDescriptor.cgMode eager) isGraph
      · rw [← isDesc] at inStates inGraphs
        exact ⟨inStates, inGraphs⟩
    compatible := fun rank other isGraph => by
      have isSame := same rank other isGraph
      have isGraphOther : (redispatched manager batches other).cgMode ≠ .NONE := isSame ▸ isGraph
      rw [← isSame]
      exact redispatched_compatible wellFormed nonempty ready other isGraphOther
    sameAcross := fun rank other => by
      by_cases isEager : (redispatched manager batches rank).cgMode = .NONE
      · simp only [redispatched_eager ready rank isEager,
          redispatched_eager ready other ((sameMode other rank).trans isEager)]
      · simp only [same rank other isEager]
    ownEntry := fun rank _ isAcross => by
      cases isAcross
      rfl
    noTensor := nofun }

end

private theorem single_agrees (ready : manager.Ready config attnStates)
    {batches : Fin dpSize → RankBatch} (single : dpSize = 1)
    {desired : Fin dpSize → BatchExecutionDescriptor}
    (isGraph : ∀ rank, (desired rank).cgMode ≠ .NONE → desired rank = manager.dispatch
      (batches rank).numReqs (batches rank).numTokens (batches rank).uniformTokenCount) :
    LaunchAgrees manager attnStates batches fun rank => (desired rank, none) := by
  subst single
  have own (rank : Fin 1) (isGraphDesc : (desired rank).cgMode ≠ .NONE) :
      (desired rank ∈ attnStates ∧ ((desired rank).cgMode = .FULL → desired rank ∈ manager.graphs)) ∧
        isCompatible (desired rank) (batches rank).numReqs (batches rank).numTokens
          (batches rank).uniformTokenCount = true := by
    have isDispatch := isGraph rank isGraphDesc
    obtain isEager | ⟨desc, isDesc, _, inStates, inGraphs, compatible⟩ :=
      ready.dispatch (batches rank).numReqs (batches rank).numTokens (batches rank).uniformTokenCount
    · rw [isDispatch, isEager] at isGraphDesc
      exact absurd rfl isGraphDesc
    · rw [isDispatch, isDesc]
      exact ⟨⟨inStates, inGraphs⟩, compatible⟩
  exact {
    sameMode := fun rank other => by rw [Subsingleton.elim rank other]
    sameDesc := fun rank other _ => by rw [Subsingleton.elim rank other]
    captured := fun rank isGraphDesc => (own rank isGraphDesc).1
    compatible := fun rank other isGraphDesc => by
      rw [Subsingleton.elim other rank]
      exact (own rank isGraphDesc).2
    sameAcross := fun _ _ => rfl
    ownEntry := nofun
    noTensor := fun _ _ => .inl rfl }

private theorem eager_agrees {batches : Fin dpSize → RankBatch}
    {across : Option (Fin dpSize → Nat)} {numTokens numReqs : Fin dpSize → Nat}
    (isAcross : ∀ tokens, across = some tokens → tokens = numTokens)
    (noTensor : across = none → ∀ rank, (batches rank).numTokens = 0 ∧ numTokens rank = 0) :
    LaunchAgrees manager attnStates batches fun rank =>
      (.eager (numTokens rank) (numReqs rank), across) where
  sameMode _ _ := rfl
  sameDesc _ _ isGraphDesc := absurd rfl isGraphDesc
  captured _ isGraphDesc := absurd rfl isGraphDesc
  compatible _ _ isGraphDesc := absurd rfl isGraphDesc
  sameAcross _ _ := rfl
  ownEntry rank tokens isTokens := congrFun (isAcross tokens isTokens) rank
  noTensor _ isNone := .inr (noTensor isNone)

/-- **Agreement.**  Whatever the ranks have to run, they all complete the launch, and
run the same graph or none. -/
theorem dispatchCgAndSyncDp_agrees (ready : manager.Ready config attnStates)
    (batches : Fin dpSize → RankBatch)
    (wellFormed : ∀ rank, (batches rank).WellFormed config.maxNumReqs)
    (uses : ∀ rank, (batches rank).Uses manager) :
    ∃ results, Launches batches results ∧ LaunchAgrees manager attnStates batches results := by
  choose desired isDesired isGraph using fun rank => (uses rank).batchDesc
  have reduced : DpTensor.allReduce (fun other => (batches other).contribution other (desired other)) =
      ⟨fun rank => (batches rank).numTokens, fun rank => (desired rank).cgMode.value,
        fun rank => (batches rank).uniformTokenCount.getD 0⟩ :=
    DpTensor.allReduce_contribution _ _ _
  have launch {results : Fin dpSize → BatchExecutionDescriptor × Option (Fin dpSize → Nat)}
      (several : dpSize ≠ 1) (agrees : LaunchAgrees manager attnStates batches results)
      (synced : ∀ rank, syncCudagraphAndDpPadding (batches rank) rank
        ⟨fun rank => (batches rank).numTokens, fun rank => (desired rank).cgMode.value,
          fun rank => (batches rank).uniformTokenCount.getD 0⟩ = .ok (results rank)) :
      ∃ results, Launches batches results ∧ LaunchAgrees manager attnStates batches results := by
    refine ⟨results, ⟨desired, isDesired, fun rank => ?_⟩, agrees⟩
    rw [dispatchCgAndSyncDp, isDesired rank, reduced]
    exact (if_neg several).trans (synced rank)
  by_cases single : dpSize = 1
  · refine ⟨_, ⟨desired, isDesired, fun rank => ?_⟩,
      single_agrees ready single fun rank isGraphDesc => (isGraph rank isGraphDesc).2⟩
    rw [dispatchCgAndSyncDp, isDesired rank]
    exact if_pos single
  by_cases allEmpty : ∀ rank, (batches rank).numTokens = 0
  · have agrees : LaunchAgrees manager attnStates batches fun _ => (.eager 0 0, none) :=
      eager_agrees nofun fun _ rank => ⟨allEmpty rank, rfl⟩
    refine launch single agrees fun rank => ?_
    rw [syncCudagraphAndDpPadding, if_pos allEmpty]
    rfl
  by_cases someEager : ∃ rank, (desired rank).cgMode = .NONE
  · have agrees : LaunchAgrees manager attnStates batches fun rank =>
        (.eager (batches rank).numTokens (batches rank).numReqs,
          some fun rank => (batches rank).numTokens) :=
      eager_agrees (fun _ isTokens => (Option.some.inj isTokens).symm) nofun
    refine launch single agrees fun rank => ?_
    have isZero : univ.inf' ⟨rank, mem_univ rank⟩
        (fun rank => (desired rank).cgMode.value) = 0 := by
      obtain ⟨eager, isEager⟩ := someEager
      have isLeast := inf'_le (fun rank => (desired rank).cgMode.value)
        (mem_univ eager)
      rw [isEager] at isLeast
      exact Nat.le_zero.mp isLeast
    rw [syncCudagraphAndDpPadding, if_neg allEmpty, isZero]
    rfl
  rw [not_exists] at someEager
  have nonempty (rank : Fin dpSize) : 0 < (batches rank).numTokens := by
    obtain ⟨_, isDispatch⟩ := isGraph rank (someEager rank)
    by_contra isEmpty
    apply someEager rank
    rw [isDispatch, Nat.le_zero.mp (not_lt.mp isEmpty), CudaGraphManager.dispatch_zero]
    rfl
  refine launch single (redispatched_agrees wellFormed nonempty ready) fun rank => ?_
  obtain ⟨least, _, isLeast⟩ := exists_mem_eq_inf' ⟨rank, mem_univ rank⟩
    fun rank => (desired rank).cgMode.value
  rw [syncCudagraphAndDpPadding, if_neg allEmpty, isLeast, RuntimeMode.ofValue_value,
    (isGraph rank (someEager rank)).1]
  exact if_neg (someEager least)

/-- Two decode requests on one rank and a prompt of three tokens on the other, with
graphs for up to four tokens. -/
theorem dispatchCgAndSyncDp_agrees_mixed :
    let config : CudaGraphConfig :=
      ⟨4, .FULL_AND_PIECEWISE, 1, Nat.one_pos, [1, 2, 4], [1], [1, 2, 4, 8]⟩
    ∃ manager attnStates,
      (CudaGraphManager.init config).capture = .ok (manager, attnStates) ∧ attnStates.length = 6 ∧
      let batches : Fin 2 → RankBatch := fun rank =>
        if rank = 0 then ⟨some manager, 2, 2, some 1, false⟩ else ⟨some manager, 1, 3, some 3, false⟩
      ∃ results, Launches batches results ∧ LaunchAgrees manager attnStates batches results := by
  intro config
  have six : (CudaGraphManager.init config).capture.toOption.map (fun ran => ran.2.length) = some 6 := by
    decide +kernel
  cases ran : (CudaGraphManager.init config).capture with
  | error failure => exact nomatch ran ▸ six
  | ok captured => ?_
  obtain ⟨manager, attnStates⟩ := captured
  rw [ran] at six
  refine ⟨manager, attnStates, rfl, Option.some.inj six, ?_⟩
  intro batches
  have decode : (⟨some manager, 2, 2, some 1, false⟩ : RankBatch).WellFormed 4 :=
    ⟨(by decide : 2 ≤ 2), (by decide : 2 ≤ 4), .inr ⟨1, by simp [getUniformTokenCount]⟩⟩
  have prompt : (⟨some manager, 1, 3, some 3, false⟩ : RankBatch).WellFormed 4 :=
    ⟨(by decide : 1 ≤ 3), (by decide : 1 ≤ 4), .inr ⟨3, by simp [getUniformTokenCount]⟩⟩
  apply dispatchCgAndSyncDp_agrees (.captured ran) batches
  · intro rank
    fin_cases rank
    · exact decode
    · exact prompt
  · intro rank
    fin_cases rank <;> exact .inl rfl

end

end DeepSpark
