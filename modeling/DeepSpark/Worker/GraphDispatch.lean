import DeepSpark.Worker.GraphCandidates

/-!
Which graph a batch is dispatched to.

Owns the sizes that carry a decode graph of a query length, when a batch misses a captured graph
that is compatible with it, and when a decode batch loses its full graph to further query lengths.
-/

namespace DeepSpark

open Lib CudaGraphManager

/-! ## The sizes of a query length -/

namespace CudaGraphConfig

variable (config : CudaGraphConfig)

def UniformSize (queryLen size : Nat) : Prop :=
  size ∈ config.graphSizes ∧ queryLen ∈ config.uniformDecodeQueryLens ∧
    (queryLen = config.decodeQueryLen ∨ size ∈ (config.captureSizes.2.get? queryLen).getD []) ∧
    queryLen ≤ size ∧ size ≤ config.maxNumReqs * config.decodeQueryLen ∧ size % queryLen = 0 ∧
    size / queryLen ≤ config.maxNumReqs

/-- The configuration without further query lengths. -/
def onlyDecodeQueryLen : CudaGraphConfig := { config with uniformDecodeQueryLens := [config.decodeQueryLen] }

/-- A batch of at most `maxNumReqs` requests with a token each, or at least `queryLen` tokens
each if it is uniform. -/
structure Batch (numReqs numTokens : Nat) (uniformTokenCount : Option Nat) : Prop where
  someReq : 0 < numReqs
  fewReqs : numReqs ≤ config.maxNumReqs
  tokenEach : numReqs ≤ numTokens
  isUniform : ∀ queryLen, uniformTokenCount = some queryLen → 0 < queryLen ∧ queryLen * numReqs ≤ numTokens

/-- No size without a graph for the batch stands before one with such a graph: for decode graphs
alone, no size of other query lengths before one of its own; where other batches have piecewise
graphs, no size without a graph of the decode query length before a capture size that has one. -/
def Unshadowed (numTokens : Nat) (uniformTokenCount : Option Nat) : Prop :=
  match config.cudagraphMode with
  | .runtime _ => True
  | .FULL_DECODE_ONLY => ∀ queryLen, uniformTokenCount = some queryLen →
      ∀ other size own, config.UniformSize other size → config.UniformSize queryLen own →
        numTokens ≤ size → size ≤ own →
        ∃ nearer, config.UniformSize queryLen nearer ∧ numTokens ≤ nearer ∧ nearer ≤ size
  | .FULL_AND_PIECEWISE => uniformTokenCount = some config.decodeQueryLen →
      ∀ size ∈ config.graphSizes, ∀ own ∈ config.cudagraphCaptureSizes,
        own ≤ config.maxNumReqs * config.decodeQueryLen → numTokens ≤ size → size ≤ own →
        ∃ nearer, config.UniformSize config.decodeQueryLen nearer ∧ numTokens ≤ nearer ∧ nearer ≤ size

variable {config} {size : Nat} {desc : BatchExecutionDescriptor}

theorem uniformDesc_eq_some {extra : PyDict Nat (List Nat)} {queryLen : Nat} :
    config.uniformDesc extra size queryLen = some desc ↔
      ((queryLen = config.decodeQueryLen ∨ size ∈ (extra.get? queryLen).getD []) ∧
        queryLen ≤ size ∧ size ≤ config.maxNumReqs * config.decodeQueryLen ∧ size % queryLen = 0 ∧
        size / queryLen ≤ config.maxNumReqs) ∧
      desc = ⟨config.cudagraphMode.decodeMode, size, some (size / queryLen), some queryLen⟩ := by
  rw [uniformDesc]
  split
  next foreign => simp [foreign.1, foreign.2]
  next own =>
    have isOwn : queryLen = config.decodeQueryLen ∨ size ∈ (extra.get? queryLen).getD [] := by
      by_cases same : queryLen = config.decodeQueryLen
      · exact Or.inl same
      · exact Or.inr (not_not.mp fun missing => own ⟨same, missing⟩)
    split
    next fits => simp [isOwn, fits, eq_comm]
    next misfits => simp [misfits]

theorem exists_uniform_iff (separate : config.cudagraphMode.separateRoutine = true) {queryLen : Nat} :
    (∃ desc ∈ config.allDescs, desc.numTokens = size ∧ desc.uniformTokenCount = some queryLen) ↔
      config.UniformSize queryLen size := by
  have modeSet : config.cudagraphMode.decodeMode ≠ .NONE := by
    cases isMode : config.cudagraphMode with
    | runtime _ =>
      rw [isMode] at separate
      cases separate
    | FULL_DECODE_ONLY | FULL_AND_PIECEWISE => decide
  constructor
  · rintro ⟨desc, member, isSize, isQuery⟩
    obtain ⟨other, isOther, inOther⟩ := List.mem_flatMap.mp member
    obtain rfl : size = other := isSize.symm.trans (numTokens_of_mem_descsOf inOther)
    rw [descsOf, if_pos ⟨separate, modeSet⟩, List.mem_append] at inOther
    rcases inOther with isUniform | isMixed
    · obtain ⟨own, isLen, isDesc⟩ := List.mem_filterMap.mp isUniform
      obtain ⟨⟨isOwn, fits⟩, rfl⟩ := uniformDesc_eq_some.mp isDesc
      obtain rfl : own = queryLen := Option.some.inj isQuery
      exact ⟨isOther, isLen, isOwn, fits⟩
    · split at isMixed
      · rw [List.mem_singleton.mp isMixed] at isQuery
        cases isQuery
      · cases isMixed
  · rintro ⟨isSize, isLen, isOwn, fits⟩
    refine ⟨⟨config.cudagraphMode.decodeMode, size, some (size / queryLen), some queryLen⟩,
      List.mem_flatMap.mpr ⟨size, isSize, ?_⟩, rfl, rfl⟩
    rw [descsOf, if_pos ⟨separate, modeSet⟩]
    exact List.mem_append_left _ (List.mem_filterMap.mpr
      ⟨queryLen, isLen, uniformDesc_eq_some.mpr ⟨⟨isOwn, fits⟩, rfl⟩⟩)

theorem mem_graphSizes_of_capture (isSize : size ∈ config.cudagraphCaptureSizes) : size ∈ config.graphSizes := by
  rw [graphSizes, if_neg (List.ne_nil_of_mem isSize), captureSizes]
  split
  · exact mem_sortedSet.mpr (List.mem_append_left _ ((List.mem_insertionSort _).mpr isSize))
  · exact (List.mem_insertionSort _).mpr isSize

theorem mem_graphSizes_only :
    size ∈ config.onlyDecodeQueryLen.graphSizes ↔ size ∈ config.cudagraphCaptureSizes := by
  rw [graphSizes]
  split
  next noSize =>
    rw [show config.cudagraphCaptureSizes = [] from noSize]
  next => exact List.mem_insertionSort _

theorem UniformSize.of_only {queryLen : Nat} (ownLen : config.decodeQueryLen ∈ config.uniformDecodeQueryLens)
    (isOwn : config.onlyDecodeQueryLen.UniformSize queryLen size) :
    queryLen = config.decodeQueryLen ∧ size ∈ config.cudagraphCaptureSizes ∧
      config.UniformSize config.decodeQueryLen size := by
  obtain ⟨isSize, isLen, -, fits⟩ := isOwn
  obtain rfl : queryLen = config.decodeQueryLen := List.mem_singleton.mp isLen
  have isCapture := mem_graphSizes_only.mp isSize
  exact ⟨rfl, isCapture, mem_graphSizes_of_capture isCapture, ownLen, Or.inl rfl, fits⟩

theorem Batch.onlyDecode {numReqs numTokens : Nat} {uniformTokenCount : Option Nat}
    (batch : config.Batch numReqs numTokens uniformTokenCount) :
    config.onlyDecodeQueryLen.Batch numReqs numTokens uniformTokenCount :=
  ⟨batch.someReq, batch.fewReqs, batch.tokenEach, batch.isUniform⟩

/-- Without separate decode graphs, every descriptor has the mode of the configuration. -/
theorem cgMode_of_runtime {mode : RuntimeMode} (isMode : config.cudagraphMode = .runtime mode)
    (member : desc ∈ config.allDescs) : desc.cgMode = mode ∧ desc.uniformTokenCount = none := by
  obtain ⟨other, -, inOther⟩ := List.mem_flatMap.mp member
  rw [descsOf, if_neg (by simp [isMode, CUDAGraphMode.separateRoutine]), List.nil_append] at inOther
  split at inOther
  · rw [List.mem_singleton.mp inOther, mixedDesc, isMode]
    exact ⟨rfl, rfl⟩
  · cases inOther

/-- Where batches that are not decode batches have a graph, every size has one for them. -/
theorem mixedDesc_mem (modeSet : config.cudagraphMode.mixedMode ≠ .NONE) (isSize : size ∈ config.graphSizes) :
    config.mixedDesc size ∈ config.allDescs := by
  refine List.mem_flatMap.mpr ⟨size, isSize, ?_⟩
  rw [descsOf, if_pos modeSet]
  exact List.mem_append_right _ (List.mem_singleton_self _)

theorem desc_of_separate (separate : config.cudagraphMode.separateRoutine = true) (member : desc ∈ config.allDescs) :
    (∃ queryLen, desc.uniformTokenCount = some queryLen ∧ desc.cgMode = .FULL ∧
      config.UniformSize queryLen desc.numTokens) ∨
    desc.uniformTokenCount = none ∧ desc.cgMode = config.cudagraphMode.mixedMode ∧
      config.cudagraphMode.mixedMode = .PIECEWISE := by
  cases isCount : desc.uniformTokenCount with
  | some queryLen =>
    refine Or.inl ⟨queryLen, rfl, ?_, (exists_uniform_iff separate).mp ⟨desc, member, rfl, isCount⟩⟩
    obtain ⟨other, -, inOther⟩ := List.mem_flatMap.mp member
    rw [descsOf, List.mem_append] at inOther
    rcases inOther with isUniform | isMixed
    · split at isUniform
      · obtain ⟨_, -, isDesc⟩ := List.mem_filterMap.mp isUniform
        obtain ⟨-, rfl⟩ := uniformDesc_eq_some.mp isDesc
        cases isMode : config.cudagraphMode with
        | runtime _ =>
          rw [isMode] at separate
          cases separate
        | FULL_DECODE_ONLY | FULL_AND_PIECEWISE => rfl
      · cases isUniform
    · split at isMixed
      · rw [List.mem_singleton.mp isMixed] at isCount
        cases isCount
      · cases isMixed
  | none =>
    refine Or.inr ⟨rfl, ?_⟩
    obtain ⟨other, -, inOther⟩ := List.mem_flatMap.mp member
    rw [descsOf, List.mem_append] at inOther
    rcases inOther with isUniform | isMixed
    · split at isUniform
      · obtain ⟨_, -, isDesc⟩ := List.mem_filterMap.mp isUniform
        obtain ⟨-, rfl⟩ := uniformDesc_eq_some.mp isDesc
        cases isCount
      · cases isUniform
    · split at isMixed
      next modeSet =>
        rw [List.mem_singleton.mp isMixed]
        refine ⟨rfl, ?_⟩
        cases isMode : config.cudagraphMode with
        | runtime _ =>
          rw [isMode] at separate
          cases separate
        | FULL_DECODE_ONLY => exact absurd (by rw [isMode]; rfl) modeSet
        | FULL_AND_PIECEWISE => rfl
      next => cases isMixed

end CudaGraphConfig

/-! ## Dispatch -/

namespace CudaGraphManager

open CudaGraphConfig

section

variable {config : CudaGraphConfig} {manager : CudaGraphManager} {attnStates : List BatchExecutionDescriptor}
  {desc : BatchExecutionDescriptor} {numReqs numTokens : Nat} {uniformTokenCount : Option Nat}
  (ran : (init config).capture = .ok (manager, attnStates))
  (batch : config.Batch numReqs numTokens uniformTokenCount)

include batch in
theorem isCompatible_desc (member : desc ∈ config.allDescs) :
    isCompatible desc numReqs numTokens uniformTokenCount = true ↔
      (desc.uniformTokenCount = none ∨ desc.uniformTokenCount = uniformTokenCount) ∧ numTokens ≤ desc.numTokens := by
  rw [(allDescs_wellShaped member).room batch.fewReqs batch.tokenEach batch.isUniform,
    Bool.and_eq_true, Bool.or_eq_true, decide_eq_true_iff, decide_eq_true_iff, decide_eq_true_iff]

theorem mem_allDescs_of_candidate (isCandidate : desc ∈ (init config).candidates.getD numTokens []) :
    desc ∈ config.allDescs := by
  rcases init_candidates_getD config numTokens with ⟨-, isEmpty⟩ | ⟨size, -, -, -, isFiltered⟩
  · rw [isEmpty] at isCandidate
    exact nomatch isCandidate
  · rw [isFiltered] at isCandidate
    exact List.mem_of_mem_filter isCandidate

include ran batch in
theorem dispatch_captured_iff :
    (manager.dispatch numReqs numTokens uniformTokenCount ∈ attnStates ∧
      isCompatible (manager.dispatch numReqs numTokens uniformTokenCount) numReqs numTokens uniformTokenCount = true) ↔
    ∃ desc ∈ (init config).candidates.getD numTokens [],
      isCompatible desc numReqs numTokens uniformTokenCount = true := by
  obtain ⟨-, -, isAttn⟩ := capture_eq_ok ran
  rw [dispatch_eq ran (batch.someReq.trans_le batch.tokenEach)]
  cases found : ((init config).candidates.getD numTokens []).find? fun desc =>
      isCompatible desc numReqs numTokens uniformTokenCount with
  | none =>
    constructor
    · rintro ⟨isCaptured, -⟩
      exact absurd rfl (allDescs_wellShaped ((isAttn _).mp isCaptured)).isGraph
    · rintro ⟨desc, isCandidate, fits⟩
      exact absurd fits (List.find?_eq_none.mp found desc isCandidate)
  | some desc =>
    have isCandidate := List.mem_of_find?_eq_some found
    have fits := List.find?_some found
    exact iff_of_true ⟨(isAttn _).mpr (mem_allDescs_of_candidate isCandidate), fits⟩ ⟨desc, isCandidate, fits⟩

include ran batch in
theorem dispatch_full (separate : config.cudagraphMode.separateRoutine = true) {size queryLen : Nat}
    (isCandidates : (init config).candidates.getD numTokens [] =
      config.allDescs.filter fun desc => decide (desc.numTokens = size))
    (isOwn : config.UniformSize queryLen size) (fits : numTokens ≤ size)
    (isUniform : uniformTokenCount = some queryLen) :
    (manager.dispatch numReqs numTokens uniformTokenCount).cgMode = .FULL := by
  have modeSet : config.cudagraphMode.decodeMode = .FULL := by
    cases isMode : config.cudagraphMode with
    | runtime _ =>
      rw [isMode] at separate
      cases separate
    | FULL_DECODE_ONLY | FULL_AND_PIECEWISE => rfl
  obtain ⟨rest, isSplit⟩ := filter_allDescs isOwn.1
  obtain ⟨-, isLen, isSize, bounds⟩ := isOwn
  set uniforms := config.uniformDecodeQueryLens.filterMap (config.uniformDesc config.captureSizes.2 size)
    with isUniforms
  have own : (⟨config.cudagraphMode.decodeMode, size, some (size / queryLen), some queryLen⟩ :
      BatchExecutionDescriptor) ∈ uniforms :=
    List.mem_filterMap.mpr ⟨queryLen, isLen, uniformDesc_eq_some.mpr ⟨⟨isSize, bounds⟩, rfl⟩⟩
  have inUniforms : ∀ desc ∈ uniforms, desc ∈ config.allDescs ∧ desc.cgMode = .FULL := by
    intro desc member
    constructor
    · have inSplit : desc ∈ config.allDescs.filter fun desc => decide (desc.numTokens = size) := by
        rw [isSplit, descsOf, if_pos ⟨separate, by rw [modeSet]; decide⟩]
        exact List.mem_append_left _ (List.mem_append_left _ member)
      exact List.mem_of_mem_filter inSplit
    · obtain ⟨_, -, isDesc⟩ := List.mem_filterMap.mp member
      obtain ⟨-, rfl⟩ := uniformDesc_eq_some.mp isDesc
      exact modeSet
  have compatible := (isCompatible_desc batch (inUniforms _ own).1).mpr ⟨Or.inr isUniform.symm, fits⟩
  rw [dispatch_eq ran (batch.someReq.trans_le batch.tokenEach), isCandidates, isSplit, descsOf,
    if_pos ⟨separate, by rw [modeSet]; decide⟩, List.append_assoc, List.find?_append]
  cases found : uniforms.find? fun desc => isCompatible desc numReqs numTokens uniformTokenCount with
  | none => exact absurd compatible (List.find?_eq_none.mp found _ own)
  | some desc => exact (inUniforms desc (List.mem_of_find?_eq_some found)).2

theorem exists_least (member : desc ∈ config.allDescs) (fits : numTokens ≤ desc.numTokens) :
    ∃ size ∈ config.graphSizes, numTokens ≤ size ∧ (∃ least ∈ config.allDescs, least.numTokens = size) ∧
      (∀ other ∈ config.allDescs, numTokens ≤ other.numTokens → size ≤ other.numTokens) ∧
      (init config).candidates.getD numTokens [] =
        config.allDescs.filter fun desc => decide (desc.numTokens = size) := by
  rcases init_candidates_getD config numTokens with
    ⟨allBelow, -⟩ | ⟨size, isSize, holds, isLeast, isFiltered⟩
  · exact absurd fits (allBelow desc member).not_ge
  · obtain ⟨least, isMember, rfl⟩ := List.mem_map.mp isSize
    exact ⟨_, numTokens_mem_graphSizes isMember, holds, ⟨least, isMember, rfl⟩, isLeast, isFiltered⟩

def Reaches (manager : CudaGraphManager) (attnStates : List BatchExecutionDescriptor) (numReqs numTokens : Nat)
    (uniformTokenCount : Option Nat) : Prop :=
  (∃ desc ∈ attnStates, isCompatible desc numReqs numTokens uniformTokenCount = true) →
    manager.dispatch numReqs numTokens uniformTokenCount ∈ attnStates ∧
      isCompatible (manager.dispatch numReqs numTokens uniformTokenCount) numReqs numTokens uniformTokenCount = true

include ran batch in
theorem reaches_of_mixed (modeSet : config.cudagraphMode.mixedMode ≠ .NONE) :
    manager.Reaches attnStates numReqs numTokens uniformTokenCount := by
  rintro ⟨desc, isCaptured, compatible⟩
  have member := ((capture_eq_ok ran).2.2 desc).mp isCaptured
  obtain ⟨size, isSize, holds, -, -, isFiltered⟩ :=
    exists_least member ((isCompatible_desc batch member).mp compatible).2
  have mixed := mixedDesc_mem modeSet isSize
  refine (dispatch_captured_iff ran batch).mpr ⟨config.mixedDesc size, ?_, ?_⟩
  · rw [isFiltered, List.mem_filter]
    exact ⟨mixed, decide_eq_true rfl⟩
  · exact (isCompatible_desc batch mixed).mpr ⟨Or.inl rfl, holds⟩

include ran batch in
/-- With decode graphs alone, a batch misses none if and only if no size of other query lengths
stands before one of its own. -/
theorem reaches_iff_of_decodeOnly (isMode : config.cudagraphMode = .FULL_DECODE_ONLY) :
    manager.Reaches attnStates numReqs numTokens uniformTokenCount ↔
      config.Unshadowed numTokens uniformTokenCount := by
  have separate : config.cudagraphMode.separateRoutine = true := by
    rw [isMode]
    rfl
  have uniform : ∀ desc ∈ config.allDescs, ∃ queryLen, desc.uniformTokenCount = some queryLen ∧
      config.UniformSize queryLen desc.numTokens := by
    intro desc member
    rcases desc_of_separate separate member with ⟨queryLen, isCount, -, isOwn⟩ | ⟨-, -, isMixed⟩
    · exact ⟨queryLen, isCount, isOwn⟩
    · rw [isMode] at isMixed
      exact nomatch isMixed
  obtain ⟨-, -, isAttn⟩ := capture_eq_ok ran
  rw [Unshadowed, isMode]
  constructor
  · rintro reaches queryLen rfl other size own isOther isOwn fits before
    obtain ⟨ownDesc, ownMember, rfl, ownCount⟩ := (exists_uniform_iff separate).mpr isOwn
    obtain ⟨otherDesc, otherMember, rfl, -⟩ := (exists_uniform_iff separate).mpr isOther
    obtain ⟨desc, isCandidate, compatible⟩ := (dispatch_captured_iff ran batch).mp (reaches
      ⟨ownDesc, (isAttn _).mpr ownMember, (isCompatible_desc batch ownMember).mpr ⟨Or.inr ownCount, fits.trans before⟩⟩)
    have member := mem_allDescs_of_candidate isCandidate
    obtain ⟨agrees, holds⟩ := (isCompatible_desc batch member).mp compatible
    obtain ⟨found, isCount, isFound⟩ := uniform desc member
    rw [isCount] at agrees
    obtain rfl : found = queryLen := by simpa using agrees
    refine ⟨desc.numTokens, isFound, holds, ?_⟩
    obtain ⟨least, -, -, -, isLeast, isFiltered⟩ := exists_least otherMember fits
    rw [isFiltered, List.mem_filter, decide_eq_true_iff] at isCandidate
    rw [isCandidate.2]
    exact isLeast otherDesc otherMember fits
  · rintro unshadowed ⟨desc, isCaptured, compatible⟩
    have member := (isAttn desc).mp isCaptured
    obtain ⟨agrees, fits⟩ := (isCompatible_desc batch member).mp compatible
    obtain ⟨queryLen, isCount, isOwn⟩ := uniform desc member
    have isUniform : uniformTokenCount = some queryLen := by
      rw [isCount] at agrees
      simpa [eq_comm] using agrees
    obtain ⟨size, -, holds, ⟨least, leastMember, rfl⟩, isLeast, isFiltered⟩ := exists_least member fits
    obtain ⟨other, -, isOther⟩ := uniform least leastMember
    obtain ⟨nearer, isNearer, nearerHolds, before⟩ :=
      unshadowed queryLen isUniform other _ _ isOther isOwn holds (isLeast desc member fits)
    obtain ⟨nearerDesc, nearerMember, rfl, nearerCount⟩ := (exists_uniform_iff separate).mpr isNearer
    refine (dispatch_captured_iff ran batch).mpr ⟨nearerDesc, ?_, ?_⟩
    · rw [isFiltered, List.mem_filter, decide_eq_true_iff]
      exact ⟨nearerMember, Nat.le_antisymm before (isLeast nearerDesc nearerMember nearerHolds)⟩
    · exact (isCompatible_desc batch nearerMember).mpr
        ⟨Or.inr (nearerCount.trans isUniform.symm), nearerHolds⟩

theorem dispatch_desc (ran : (init config).capture = .ok (manager, attnStates))
    (batch : config.Batch numReqs numTokens uniformTokenCount)
    (isGraph : (manager.dispatch numReqs numTokens uniformTokenCount).cgMode ≠ .NONE) :
    ∃ desc ∈ (init config).candidates.getD numTokens [],
      manager.dispatch numReqs numTokens uniformTokenCount = desc ∧
        isCompatible desc numReqs numTokens uniformTokenCount = true := by
  rw [dispatch_eq ran (batch.someReq.trans_le batch.tokenEach)] at isGraph ⊢
  cases found : ((init config).candidates.getD numTokens []).find? fun desc =>
      isCompatible desc numReqs numTokens uniformTokenCount with
  | none =>
    rw [found] at isGraph
    exact absurd rfl isGraph
  | some desc =>
    have compatible := List.find?_some found
    exact ⟨desc, List.mem_of_find?_eq_some found, rfl, compatible⟩

end

section

variable {config : CudaGraphConfig} {manager only : CudaGraphManager}
  {attnStates onlyStates : List BatchExecutionDescriptor} {numReqs numTokens : Nat} {uniformTokenCount : Option Nat}
  (ran : (init config).capture = .ok (manager, attnStates))
  (ranOnly : (init config.onlyDecodeQueryLen).capture = .ok (only, onlyStates))
  (batch : config.Batch numReqs numTokens uniformTokenCount)
  (ownLen : config.decodeQueryLen ∈ config.uniformDecodeQueryLens)

def KeepsFull (only manager : CudaGraphManager) (decodeQueryLen numReqs numTokens : Nat)
    (uniformTokenCount : Option Nat) : Prop :=
  uniformTokenCount = some decodeQueryLen → (only.dispatch numReqs numTokens uniformTokenCount).cgMode = .FULL →
    (manager.dispatch numReqs numTokens uniformTokenCount).cgMode = .FULL

include ran ranOnly batch in
theorem keepsFull_of_runtime {mode : RuntimeMode} (isMode : config.cudagraphMode = .runtime mode) :
    KeepsFull only manager config.decodeQueryLen numReqs numTokens uniformTokenCount := by
  intro _ isFull
  obtain ⟨desc, isCandidate, isDesc, compatible⟩ := dispatch_desc ranOnly batch.onlyDecode (by rw [isFull]; exact nofun)
  have member := mem_allDescs_of_candidate isCandidate
  have isFullMode : mode = .FULL := by
    have isOnlyMode : config.onlyDecodeQueryLen.cudagraphMode = .runtime mode := isMode
    rw [← (cgMode_of_runtime isOnlyMode member).1, ← isDesc]
    exact isFull
  have modeSet : config.cudagraphMode.mixedMode ≠ .NONE := by
    rw [isMode, isFullMode]
    exact nofun
  have isSize := mem_graphSizes_of_capture
    (mem_graphSizes_only.mp (numTokens_mem_graphSizes member))
  have mixed := mixedDesc_mem modeSet isSize
  obtain ⟨-, -, isAttn⟩ := capture_eq_ok ran
  have reached := reaches_of_mixed ran batch modeSet ⟨_, (isAttn _).mpr mixed,
    (isCompatible_desc batch mixed).mpr
      ⟨Or.inl rfl, ((isCompatible_desc batch.onlyDecode member).mp compatible).2⟩⟩
  rw [(cgMode_of_runtime isMode ((isAttn _).mp reached.1)).1, isFullMode]

include ran ranOnly batch ownLen in
theorem keepsFull_of_decodeOnly (isMode : config.cudagraphMode = .FULL_DECODE_ONLY)
    (reaches : manager.Reaches attnStates numReqs numTokens uniformTokenCount) :
    KeepsFull only manager config.decodeQueryLen numReqs numTokens uniformTokenCount := by
  intro isUniform isFull
  have separate : config.cudagraphMode.separateRoutine = true := by
    rw [isMode]
    rfl
  obtain ⟨desc, isCandidate, -, compatible⟩ := dispatch_desc ranOnly batch.onlyDecode (by rw [isFull]; exact nofun)
  have member := mem_allDescs_of_candidate isCandidate
  obtain ⟨-, fits⟩ := (isCompatible_desc batch.onlyDecode member).mp compatible
  obtain ⟨-, -, isAttn⟩ := capture_eq_ok ran
  have onlySize : ∃ queryLen, config.onlyDecodeQueryLen.UniformSize queryLen desc.numTokens := by
    have onlySeparate : config.onlyDecodeQueryLen.cudagraphMode.separateRoutine = true := separate
    rcases desc_of_separate onlySeparate member with
      ⟨queryLen, -, -, isOwn⟩ | ⟨-, -, isMixed⟩
    · exact ⟨queryLen, isOwn⟩
    · rw [show config.onlyDecodeQueryLen.cudagraphMode = .FULL_DECODE_ONLY from isMode] at isMixed
      exact nomatch isMixed
  obtain ⟨_, isOwn⟩ := onlySize
  obtain ⟨ownDesc, ownMember, isSize, isCount⟩ :=
    (exists_uniform_iff separate).mpr (isOwn.of_only ownLen).2.2
  have reached := reaches ⟨ownDesc, (isAttn _).mpr ownMember,
    (isCompatible_desc batch ownMember).mpr ⟨Or.inr (isCount.trans isUniform.symm), isSize ▸ fits⟩⟩
  rcases desc_of_separate separate ((isAttn _).mp reached.1) with
    ⟨_, -, isFullDesc, -⟩ | ⟨-, -, isMixed⟩
  · exact isFullDesc
  · rw [isMode] at isMixed
    exact nomatch isMixed

include ran ranOnly batch ownLen in
/-- With piecewise graphs for the other batches, it keeps its full graph if and only if no size
without a decode graph stands before its own. -/
theorem keepsFull_iff_of_piecewise (isMode : config.cudagraphMode = .FULL_AND_PIECEWISE)
    (adjusted : ∀ size ∈ config.cudagraphCaptureSizes, config.decodeQueryLen ∣ size) :
    KeepsFull only manager config.decodeQueryLen numReqs numTokens uniformTokenCount ↔
      config.Unshadowed numTokens uniformTokenCount := by
  have separate : config.cudagraphMode.separateRoutine = true := by
    rw [isMode]
    rfl
  have modeSet : config.cudagraphMode.mixedMode ≠ .NONE := by
    rw [isMode]
    exact nofun
  have someToken := batch.someReq.trans_le batch.tokenEach
  rw [Unshadowed, isMode]
  constructor
  · intro keeps isUniform size isSize own isCapture bounded fits before
    -- without further query lengths, the next capture size has a decode graph
    have ownMixed : config.onlyDecodeQueryLen.mixedDesc own ∈ config.onlyDecodeQueryLen.allDescs :=
      mixedDesc_mem modeSet (mem_graphSizes_only.mpr isCapture)
    obtain ⟨next, isNext, holds, -, isLeast, isFiltered⟩ := exists_least ownMixed (fits.trans before)
    have divides := adjusted next (mem_graphSizes_only.mp isNext)
    have isBounded : next ≤ config.maxNumReqs * config.decodeQueryLen :=
      (isLeast _ ownMixed (fits.trans before)).trans bounded
    have onlyOwn : config.onlyDecodeQueryLen.UniformSize config.decodeQueryLen next :=
      ⟨isNext, List.mem_singleton_self _, Or.inl rfl, Nat.le_of_dvd (someToken.trans_le holds) divides, isBounded,
        Nat.mod_eq_zero_of_dvd divides, Nat.div_le_of_le_mul (by rw [Nat.mul_comm]; exact isBounded)⟩
    have isFull := keeps isUniform (dispatch_full ranOnly batch.onlyDecode separate isFiltered onlyOwn holds isUniform)
    obtain ⟨desc, isCandidate, isDesc, compatible⟩ := dispatch_desc ran batch (by rw [isFull]; exact nofun)
    have member := mem_allDescs_of_candidate isCandidate
    obtain ⟨agrees, descHolds⟩ := (isCompatible_desc batch member).mp compatible
    rw [isDesc] at isFull
    rcases desc_of_separate separate member with
      ⟨queryLen, isCount, -, isOwn⟩ | ⟨-, isMixed, isPiecewise⟩
    · obtain rfl : queryLen = config.decodeQueryLen := by
        rw [isCount, isUniform] at agrees
        simpa using agrees
      have sizeMixed := mixedDesc_mem modeSet isSize
      obtain ⟨least, -, -, -, leastLe, isFiltered'⟩ := exists_least sizeMixed fits
      rw [isFiltered', List.mem_filter, decide_eq_true_iff] at isCandidate
      exact ⟨desc.numTokens, isOwn, descHolds, isCandidate.2.trans_le (leastLe _ sizeMixed fits)⟩
    · rw [isMixed, isPiecewise] at isFull
      exact nomatch isFull
  · intro unshadowed isUniform isFull
    obtain ⟨desc, isCandidate, isDesc, compatible⟩ :=
      dispatch_desc ranOnly batch.onlyDecode (by rw [isFull]; exact nofun)
    have member := mem_allDescs_of_candidate isCandidate
    obtain ⟨-, fits⟩ := (isCompatible_desc batch.onlyDecode member).mp compatible
    rw [isDesc] at isFull
    have onlySeparate : config.onlyDecodeQueryLen.cudagraphMode.separateRoutine = true := separate
    rcases desc_of_separate onlySeparate member with
      ⟨queryLen, -, -, isOwn⟩ | ⟨-, isMixed, isPiecewise⟩
    · obtain ⟨-, isCapture, isOwnSize⟩ := isOwn.of_only ownLen
      have ownMixed := mixedDesc_mem modeSet (mem_graphSizes_of_capture isCapture)
      obtain ⟨next, isNext, holds, -, isLeast, isFiltered⟩ := exists_least ownMixed fits
      obtain ⟨nearer, isNearer, nearerHolds, before⟩ := unshadowed isUniform next isNext desc.numTokens isCapture
        isOwnSize.2.2.2.2.1 holds (isLeast (config.mixedDesc desc.numTokens) ownMixed fits)
      obtain ⟨nearerDesc, nearerMember, isSize, -⟩ := (exists_uniform_iff separate).mpr isNearer
      have atLeast := isLeast nearerDesc nearerMember (isSize ▸ nearerHolds)
      obtain rfl : nearer = next := Nat.le_antisymm before (isSize ▸ atLeast)
      exact dispatch_full ran batch separate isFiltered isNearer holds isUniform
    · rw [isMixed, isPiecewise] at isFull
      exact nomatch isFull

end

end CudaGraphManager

/-- With the capture sizes adjusted to the decode query length, a batch misses no captured graph
and a decode batch keeps its full graph with further query lengths if and only if no size without
a graph for it stands before its own. -/
theorem cudaGraphDispatch_reaches_iff {config : CudaGraphConfig} {manager only : CudaGraphManager}
    {attnStates onlyStates : List BatchExecutionDescriptor} {numReqs numTokens : Nat} {uniformTokenCount : Option Nat}
    {sizes : List Nat} {maxSize maxAdjusted : Option Nat} {tensorParallelSize : Nat} {enableSp : Bool}
    (adjusted : adjustCudagraphSizesForSpecDecode sizes maxSize config.decodeQueryLen tensorParallelSize enableSp =
      .ok (config.cudagraphCaptureSizes, maxAdjusted))
    (ownLen : config.decodeQueryLen ∈ config.uniformDecodeQueryLens)
    (ran : (init config).capture = .ok (manager, attnStates))
    (ranOnly : (init config.onlyDecodeQueryLen).capture = .ok (only, onlyStates))
    (batch : config.Batch numReqs numTokens uniformTokenCount) :
    (manager.Reaches attnStates numReqs numTokens uniformTokenCount ∧
      KeepsFull only manager config.decodeQueryLen numReqs numTokens uniformTokenCount) ↔
        config.Unshadowed numTokens uniformTokenCount := by
  cases isMode : config.cudagraphMode with
  | runtime mode =>
    have keeps := keepsFull_of_runtime ran ranOnly batch isMode
    have reaches : manager.Reaches attnStates numReqs numTokens uniformTokenCount := by
      by_cases isNone : mode = .NONE
      · rintro ⟨desc, isCaptured, -⟩
        have member := ((capture_eq_ok ran).2.2 desc).mp isCaptured
        exact absurd ((CudaGraphConfig.cgMode_of_runtime isMode member).1.trans isNone)
          (CudaGraphConfig.allDescs_wellShaped member).isGraph
      · exact reaches_of_mixed ran batch (by rw [isMode]; exact isNone)
    rw [CudaGraphConfig.Unshadowed, isMode]
    exact iff_of_true ⟨reaches, keeps⟩ trivial
  | FULL_DECODE_ONLY =>
    rw [← reaches_iff_of_decodeOnly ran batch isMode]
    exact ⟨And.left, fun reaches =>
      ⟨reaches, keepsFull_of_decodeOnly ran ranOnly batch ownLen isMode reaches⟩⟩
  | FULL_AND_PIECEWISE =>
    have divides : ∀ size ∈ config.cudagraphCaptureSizes, config.decodeQueryLen ∣ size :=
      fun size isSize => dvd_of_adjusted config.decodeQueryLen_pos adjusted isSize
    rw [← keepsFull_iff_of_piecewise ran ranOnly batch ownLen isMode divides]
    exact ⟨And.right, fun keeps => ⟨reaches_of_mixed ran batch (by rw [isMode]; exact nofun), keeps⟩⟩

/-- Decode graphs for up to four requests, of three tokens or of one. -/
private def threeOrOne : CudaGraphConfig where
  maxNumReqs := 4
  cudagraphMode := .FULL_DECODE_ONLY
  decodeQueryLen := 3
  decodeQueryLen_pos := by decide
  cudagraphCaptureSizes := [3, 6, 9, 12]
  uniformDecodeQueryLens := [1, 3]
  bucketReqCounts := [1, 2, 4]

private theorem threeOrOne_batch {numReqs : Nat} (someReq : 0 < numReqs) (fewReqs : numReqs ≤ 4) :
    threeOrOne.Batch numReqs numReqs (some 1) := by
  refine ⟨someReq, fewReqs, le_rfl, fun queryLen isUniform => ?_⟩
  cases isUniform
  omega

/-- Three requests of one token run without a graph: the graph of one request of three tokens stands
before that of four requests of one token. -/
theorem cudaGraphDispatch_shadowed :
    adjustCudagraphSizesForSpecDecode [12] (some 12) 3 1 false = .ok (threeOrOne.cudagraphCaptureSizes, some 12) ∧
    ∃ manager attnStates, (init threeOrOne).capture = .ok (manager, attnStates) ∧
      threeOrOne.Batch 3 3 (some 1) ∧
      (⟨.FULL, 4, some 4, some 1⟩ : BatchExecutionDescriptor) ∈ attnStates ∧
      isCompatible ⟨.FULL, 4, some 4, some 1⟩ 3 3 (some 1) = true ∧
      manager.dispatch 3 3 (some 1) = .eager 3 3 :=
  ⟨rfl, _, _, rfl, threeOrOne_batch (by decide) (by decide), by decide, by decide, by decide⟩

/-- Two requests of one token run in their graph. -/
theorem cudaGraphDispatch_reaches_two : ∃ manager attnStates,
    (init threeOrOne).capture = .ok (manager, attnStates) ∧
      manager.Reaches attnStates 2 2 (some 1) := by
  have adjusted : adjustCudagraphSizesForSpecDecode [12] (some 12) threeOrOne.decodeQueryLen 1 false =
      .ok (threeOrOne.cudagraphCaptureSizes, some 12) := rfl
  obtain ⟨manager, attnStates, ran⟩ : ∃ manager attnStates,
      (init threeOrOne).capture = .ok (manager, attnStates) := ⟨_, _, rfl⟩
  obtain ⟨only, onlyStates, ranOnly⟩ : ∃ only onlyStates,
      (init threeOrOne.onlyDecodeQueryLen).capture = .ok (only, onlyStates) := ⟨_, _, rfl⟩
  have unshadowed : threeOrOne.Unshadowed 2 (some 1) := by
    rintro queryLen ⟨rfl⟩ other size own - - fits -
    exact ⟨2, by unfold CudaGraphConfig.UniformSize; decide, le_rfl, fits⟩
  exact ⟨manager, attnStates, ran, ((cudaGraphDispatch_reaches_iff adjusted (by decide) ran ranOnly
    (threeOrOne_batch (by decide) (by decide))).mpr unshadowed).1⟩

end DeepSpark
