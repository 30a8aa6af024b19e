import DeepSpark.Worker.CudaGraphs

/-!
The graphs a batch can be dispatched to.

Owns the adjustment of the capture sizes to the decode query length, the descriptors that are
built, in order, the candidates of every token count in terms of them, and dispatch as a search
among the candidates.
-/

namespace DeepSpark

open Lib List

/-! ## The capture sizes -/

def roundUp (size multiple : Nat) : Nat := (size + multiple - 1) / multiple * multiple

/-- `CompilationConfig.adjust_cudagraph_sizes_for_spec_decode`: the capture sizes and their
maximum. -/
def adjustCudagraphSizesForSpecDecode (sizes : List Nat) (maxSize : Option Nat)
    (uniformDecodeQueryLen tensorParallelSize : Nat) (enableSp : Bool) :
    Except PyError (List Nat × Option Nat) :=
  let sequenceParallel : Bool := decide (1 < tensorParallelSize) && enableSp
  let multipleOf :=
    if sequenceParallel then max uniformDecodeQueryLen tensorParallelSize else uniformDecodeQueryLen
  if sequenceParallel ∧ (multipleOf % uniformDecodeQueryLen ≠ 0 ∨ multipleOf % tensorParallelSize ≠ 0) then
    .error (.valueError (s!"Can't determine cudagraph shapes that are both a multiple of {uniformDecodeQueryLen} " ++
      s!"(num_speculative_tokens + 1) required by spec-decode and {tensorParallelSize} (tensor_parallel_size) " ++
      "required by sequence parallelism please adjust num_speculative_tokens or disable sequence parallelism"))
  else if sizes = [] ∨ multipleOf ≤ 1 then .ok (sizes, maxSize)
  else
    match maxSize with
    | none => .error (.assertionError "")
    | some maxSize =>
      let rounded := (sizes.map (roundUp · multipleOf)).filter (· ≤ maxSize)
      -- small request counts stay exact
      let small := ((List.range' 1 32).map (multipleOf * ·)).filter (· ≤ maxSize)
      let merged := sortedSet (rounded ++ small)
      let kept := if merged = [] ∧ multipleOf ≤ maxSize then [multipleOf] else merged
      if kept = [] then
        .error (.valueError (s!"No valid cudagraph sizes after rounding to multiple of {multipleOf} " ++
          "(num_speculative_tokens + 1 or tp if sequence parallelism is enabled) please adjust " ++
          s!"num_speculative_tokens ({uniformDecodeQueryLen - 1}) or max_cudagraph_capture_size ({maxSize}) " ++
          s!"or cudagraph_capture_sizes ({sizes})"))
      else .ok (kept, kept.getLast?)

theorem dvd_of_adjusted {sizes adjusted : List Nat} {maxSize maxAdjusted : Option Nat}
    {uniformDecodeQueryLen tensorParallelSize : Nat} {enableSp : Bool} (positive : 0 < uniformDecodeQueryLen)
    (ran : adjustCudagraphSizesForSpecDecode sizes maxSize uniformDecodeQueryLen tensorParallelSize enableSp =
      .ok (adjusted, maxAdjusted)) {size : Nat} (isSize : size ∈ adjusted) : uniformDecodeQueryLen ∣ size := by
  unfold adjustCudagraphSizesForSpecDecode at ran
  dsimp only at ran
  generalize isMultiple : (if (decide (1 < tensorParallelSize) && enableSp) = true then
    max uniformDecodeQueryLen tensorParallelSize else uniformDecodeQueryLen) = multipleOf at ran
  split at ran
  · exact nomatch ran
  next compatible =>
    have divides : uniformDecodeQueryLen ∣ multipleOf := by
      by_cases sequenceParallel : (decide (1 < tensorParallelSize) && enableSp) = true
      · exact Nat.dvd_of_mod_eq_zero (not_not.mp fun notZero => compatible ⟨sequenceParallel, Or.inl notZero⟩)
      · rw [if_neg sequenceParallel] at isMultiple
        exact isMultiple ▸ Nat.dvd_refl _
    have atLeast : uniformDecodeQueryLen ≤ multipleOf := by
      rw [← isMultiple]
      split
      · exact Nat.le_max_left _ _
      · exact Nat.le_refl _
    split at ran
    next unchanged =>
      cases ran
      rcases unchanged with rfl | small
      · exact nomatch isSize
      · rw [show uniformDecodeQueryLen = 1 by omega]
        exact Nat.one_dvd _
    next =>
      cases maxSize with
      | none => exact nomatch ran
      | some maxSize =>
        dsimp only at ran
        have inMerged : ∀ {size : Nat}, size ∈ sortedSet ((sizes.map (roundUp · multipleOf)).filter
            (fun size => decide (size ≤ maxSize)) ++ ((List.range' 1 32).map (multipleOf * ·)).filter
            (fun size => decide (size ≤ maxSize))) → uniformDecodeQueryLen ∣ size := by
          intro size isMember
          rcases mem_append.mp (mem_sortedSet.mp isMember) with isRounded | isSmall
          · obtain ⟨original, -, rfl⟩ := mem_map.mp (mem_of_mem_filter isRounded)
            exact Nat.dvd_trans divides (Nat.dvd_mul_left _ _)
          · obtain ⟨numReqs, -, rfl⟩ := mem_map.mp (mem_of_mem_filter isSmall)
            exact Nat.dvd_trans divides (Nat.dvd_mul_right _ _)
        generalize sortedSet _ = merged at ran inMerged
        by_cases isFallback : merged = [] ∧ multipleOf ≤ maxSize
        · rw [if_pos isFallback, if_neg (cons_ne_nil _ _)] at ran
          cases ran
          rw [mem_singleton.mp isSize]
          exact divides
        · rw [if_neg isFallback] at ran
          split at ran
          · exact nomatch ran
          · cases ran
            exact inMerged isSize

/-! ## The tables by token count and by mode -/

section

variable {α : Type}

private theorem getD_foldl_set (entry fallback : α) (indices : List Nat) (slots : List α) (i : Nat) :
    (indices.foldl (fun slots index => slots.set index entry) slots).getD i fallback =
      if i ∈ indices ∧ i < slots.length then entry else slots.getD i fallback := by
  induction indices generalizing slots with
  | nil => simp
  | cons index rest ih =>
    rw [foldl_cons, ih, length_set]
    simp only [mem_cons, getD_eq_getElem?_getD, getElem?_set]
    by_cases inSlots : i < slots.length
    · by_cases same : index = i
      · subst same
        simp [inSlots]
      · simp [inSlots, same, Ne.symm same]
    · have beyond : slots[i]? = none := getElem?_eq_none (Nat.not_lt.mp inSlots)
      simp only [inSlots, and_false, if_false, beyond]
      split
      · next same =>
          subst same
          simp [inSlots]
      · rfl

theorem getD_filledRanges (entry : Nat → α) (fallback : α) {sizes : List Nat} (sorted : sizes.Pairwise (· < ·))
    {slots : List α} {start : Nat} (inSlots : ∀ size ∈ sizes, start ≤ size ∧ size < slots.length) (i : Nat) :
    (sizes.foldl
      (fun walk size =>
        ((List.range' walk.2 (size + 1 - walk.2)).foldl (fun slots index => slots.set index (entry size)) walk.1,
          size + 1))
      (slots, start)).1.getD i fallback =
    if i < start then slots.getD i fallback
    else ((sizes.find? fun size => decide (i ≤ size)).map entry).getD (slots.getD i fallback) := by
  induction sizes generalizing slots start with
  | nil => simp
  | cons size rest ih =>
    obtain ⟨atLeast, isSlot⟩ := inSlots size mem_cons_self
    rw [pairwise_cons] at sorted
    set filled := (List.range' start (size + 1 - start)).foldl (fun slots index => slots.set index (entry size)) slots
      with isFilled
    have sameLength : filled.length = slots.length := by
      rw [isFilled]
      exact foldl_preserves (P := fun list : List α => list.length = slots.length)
        (fun _ _ kept => length_set.trans kept) rfl
    have restSlots : ∀ other ∈ rest, size + 1 ≤ other ∧ other < filled.length := fun other isOther =>
      ⟨sorted.1 other isOther, sameLength ▸ (inSlots other (mem_cons_of_mem _ isOther)).2⟩
    rw [foldl_cons]
    rw [ih sorted.2 restSlots, isFilled, getD_foldl_set]
    simp only [mem_range'_1, find?_cons]
    by_cases before : i < start
    · simp only [before, if_true, show i < size + 1 by omega, show ¬ start ≤ i by omega, false_and, if_false]
    · by_cases within : i ≤ size
      · simp only [before, if_false, show i < size + 1 by omega, if_true, show start ≤ i by omega,
          show i < start + (size + 1 - start) by omega, show i < slots.length by omega, within, decide_true,
          and_self, Option.map_some, Option.getD_some]
      · simp only [before, if_false, show ¬ i < size + 1 by omega, show ¬ i < start + (size + 1 - start) by omega,
          and_false, false_and, within, decide_false]

end

namespace DescTables

variable (descs : List BatchExecutionDescriptor)

private theorem getD_appended {κ : Type} [DecidableEq κ] (key : BatchExecutionDescriptor → κ) (wanted : κ) :
    (((descs.foldl (fun table desc => PyDict.append table (key desc) desc) .empty).get? wanted).getD [] =
      descs.filter fun desc => decide (key desc = wanted)) ∧
    ((∃ entry, (descs.foldl (fun table desc => PyDict.append table (key desc) desc) .empty).get? wanted = some entry) ↔
      ∃ desc ∈ descs, key desc = wanted) := by
  induction descs using List.reverseRecOn with
  | nil => simp
  | append_singleton descs last ih =>
    rw [foldl_append, foldl_cons, foldl_nil, PyDict.append, PyDict.get?_set, filter_append]
    by_cases same : wanted = key last
    · subst same
      rw [if_pos rfl, Option.getD_some, ih.1]
      simp
    · rw [if_neg same, ih.1, ih.2]
      simp only [filter_cons, filter_nil, mem_append, mem_singleton]
      constructor
      · simp [Ne.symm same]
      · constructor
        · rintro ⟨desc, member, isKey⟩
          exact ⟨desc, .inl member, isKey⟩
        · rintro ⟨desc, member | rfl, isKey⟩
          · exact ⟨desc, member, isKey⟩
          · exact absurd isKey.symm same

private theorem foldl_append_eq :
    descs.foldl append empty =
      ⟨descs.foldl (fun table desc => table.append desc.numTokens desc) .empty,
        descs.foldl (fun table desc => table.append desc.cgMode desc) .empty⟩ := by
  induction descs using List.reverseRecOn with
  | nil => rfl
  | append_singleton descs last ih =>
    rw [foldl_append, foldl_append, foldl_append, ih]
    rfl

theorem getD_byTokenCount (size : Nat) :
    ((descs.foldl append empty).byTokenCount.get? size).getD [] =
      descs.filter fun desc => decide (desc.numTokens = size) := by
  rw [foldl_append_eq]
  exact (getD_appended descs BatchExecutionDescriptor.numTokens size).1

theorem mem_byTokenCount_keys {size : Nat} :
    size ∈ (descs.foldl append empty).byTokenCount.keys ↔ ∃ desc ∈ descs, desc.numTokens = size := by
  rw [PyDict.mem_keys, foldl_append_eq]
  exact (getD_appended descs BatchExecutionDescriptor.numTokens size).2

theorem byTokenCount_eq_nil : (descs.foldl append empty).byTokenCount.entries = [] ↔ descs = [] := by
  have isKeys : (descs.foldl append empty).byTokenCount.entries = [] ↔
      ∀ size, size ∉ (descs.foldl append empty).byTokenCount.keys := by
    rw [← eq_nil_iff_forall_not_mem, PyDict.keys, map_eq_nil_iff]
  rw [isKeys, eq_nil_iff_forall_not_mem]
  constructor
  · intro noKey desc member
    exact noKey desc.numTokens ((mem_byTokenCount_keys descs).mpr ⟨desc, member, rfl⟩)
  · intro noDesc size isKey
    obtain ⟨desc, member, -⟩ := (mem_byTokenCount_keys descs).mp isKey
    exact noDesc desc member

theorem getD_byMode (mode : RuntimeMode) :
    ((descs.foldl append empty).byMode.get? mode).getD [] =
      descs.filter fun desc => decide (desc.cgMode = mode) := by
  rw [foldl_append_eq]
  exact (getD_appended descs BatchExecutionDescriptor.cgMode mode).1

end DescTables

/-! ## The descriptors -/

namespace CudaGraphConfig

variable (config : CudaGraphConfig)

/-- The sizes `_init_candidates` goes through. -/
def graphSizes : List Nat := if config.cudagraphCaptureSizes = [] then [] else config.captureSizes.1

def allDescs : List BatchExecutionDescriptor :=
  config.graphSizes.flatMap (config.descsOf config.captureSizes.2)

variable {config} {desc : BatchExecutionDescriptor}

theorem numTokens_of_mem_descsOf {extra : PyDict Nat (List Nat)} {numTokens : Nat}
    (member : desc ∈ config.descsOf extra numTokens) : desc.numTokens = numTokens := by
  rw [descsOf, mem_append] at member
  rcases member with isUniform | isMixed
  · split at isUniform
    · obtain ⟨queryLen, -, isDesc⟩ := mem_filterMap.mp isUniform
      unfold uniformDesc at isDesc
      split at isDesc
      · cases isDesc
      · split at isDesc
        · cases isDesc
          rfl
        · cases isDesc
    · cases isUniform
  · split at isMixed
    · rw [mem_singleton.mp isMixed]
      rfl
    · cases isMixed

theorem allDescs_wellShaped (member : desc ∈ config.allDescs) : desc.WellShaped config.maxNumReqs := by
  obtain ⟨_, -, inSize⟩ := mem_flatMap.mp member
  exact descsOf_wellShaped inSize

theorem numTokens_mem_graphSizes (member : desc ∈ config.allDescs) : desc.numTokens ∈ config.graphSizes := by
  obtain ⟨size, isSize, inSize⟩ := mem_flatMap.mp member
  rwa [numTokens_of_mem_descsOf inSize]

theorem filter_allDescs {size : Nat} (isSize : size ∈ config.graphSizes) :
    ∃ rest, (config.allDescs.filter fun desc => decide (desc.numTokens = size)) =
      config.descsOf config.captureSizes.2 size ++ rest := by
  obtain ⟨earlier, later, isSplit, isFirst⟩ := eq_append_cons_of_mem isSize
  have own : (config.descsOf config.captureSizes.2 size).filter (fun desc => decide (desc.numTokens = size)) =
      config.descsOf config.captureSizes.2 size :=
    filter_eq_self.mpr fun desc member => decide_eq_true (numTokens_of_mem_descsOf member)
  have none : (earlier.flatMap (config.descsOf config.captureSizes.2)).filter
      (fun desc => decide (desc.numTokens = size)) = [] := by
    apply filter_eq_nil_iff.mpr
    intro desc member isOwn
    obtain ⟨other, isOther, inOther⟩ := mem_flatMap.mp member
    rw [numTokens_of_mem_descsOf inOther] at isOwn
    exact isFirst (of_decide_eq_true isOwn ▸ isOther)
  rw [allDescs, isSplit, flatMap_append, flatMap_cons, filter_append, filter_append, own, none,
    nil_append]
  exact ⟨_, rfl⟩

end CudaGraphConfig

namespace CudaGraphManager

variable {config : CudaGraphConfig}

theorem init_tables :
    (init config).candidates = (if config.allDescs = [] then []
      else candidatesOf (config.allDescs.foldl DescTables.append .empty).byTokenCount) ∧
    ∀ mode desc, desc ∈ ((init config).captureDescs.get? mode).getD [] ↔
      desc ∈ config.allDescs ∧ desc.cgMode = mode := by
  have fresh : config.allDescs = [] → ∀ manager : CudaGraphManager, manager.candidates = [] →
      manager.captureDescs = .empty → manager.candidates = (if config.allDescs = [] then []
        else candidatesOf (config.allDescs.foldl DescTables.append .empty).byTokenCount) ∧
      ∀ mode desc, desc ∈ (manager.captureDescs.get? mode).getD [] ↔
        desc ∈ config.allDescs ∧ desc.cgMode = mode := by
    intro isEmpty manager noCandidates noDescs
    rw [isEmpty, noCandidates, noDescs]
    simp
  rw [init]
  split
  next unset =>
    refine fresh ?_ _ rfl rfl
    rw [CudaGraphConfig.allDescs, CudaGraphConfig.graphSizes]
    rcases unset with noMode | noSize
    · apply flatMap_eq_nil_iff.mpr
      intro size _
      simp [CudaGraphConfig.descsOf, noMode, CUDAGraphMode.separateRoutine, CUDAGraphMode.mixedMode]
    · rw [if_pos noSize]
      rfl
  next isSet =>
    have isAll : config.captureSizes.1.flatMap (config.descsOf config.captureSizes.2) = config.allDescs := by
      rw [CudaGraphConfig.allDescs, CudaGraphConfig.graphSizes, if_neg fun noSize => isSet (Or.inr noSize)]
    dsimp only
    rw [isAll]
    split
    next noEntry => exact fresh ((DescTables.byTokenCount_eq_nil _).mp noEntry) _ rfl rfl
    next someEntry =>
      rw [if_neg fun isEmpty => someEntry ((DescTables.byTokenCount_eq_nil _).mpr isEmpty)]
      refine ⟨rfl, fun mode desc => ?_⟩
      rw [PyDict.get?_mapValues]
      have isFiltered := DescTables.getD_byMode config.allDescs mode
      revert isFiltered
      cases (config.allDescs.foldl DescTables.append .empty).byMode.get? mode with
      | none =>
        intro isFiltered
        have noDesc : ¬ (desc ∈ config.allDescs ∧ desc.cgMode = mode) := fun isDesc =>
          filter_eq_nil_iff.mp isFiltered.symm desc isDesc.1 (decide_eq_true isDesc.2)
        simpa using fun member isMode => noDesc ⟨member, isMode⟩
      | some descs =>
        intro isFiltered
        rw [Option.getD_some] at isFiltered
        rw [Option.map_some, Option.getD_some, mem_insertionSort, isFiltered, mem_filter,
          decide_eq_true_iff]

variable (config) in
/-- The candidates of a token count are the descriptors of the least size that holds it. -/
theorem init_candidates_getD (numTokens : Nat) :
    (∀ desc ∈ config.allDescs, desc.numTokens < numTokens) ∧ (init config).candidates.getD numTokens [] = [] ∨
      ∃ size ∈ config.allDescs.map BatchExecutionDescriptor.numTokens, numTokens ≤ size ∧
        (∀ desc ∈ config.allDescs, numTokens ≤ desc.numTokens → size ≤ desc.numTokens) ∧
        (init config).candidates.getD numTokens [] =
          config.allDescs.filter fun desc => decide (desc.numTokens = size) := by
  rw [init_tables.1]
  split
  next isEmpty =>
    rw [isEmpty]
    exact Or.inl ⟨nofun, rfl⟩
  next notEmpty =>
    set byTokenCount := (config.allDescs.foldl DescTables.append .empty).byTokenCount with isTable
    set sizes := byTokenCount.keys.insertionSort (· ≤ ·) with isSizes
    have sorted : sizes.Pairwise (· < ·) := by
      have nodup : sizes.Nodup := (perm_insertionSort _ _).nodup_iff.mpr byTokenCount.keys_nodup
      exact ((pairwise_insertionSort _ _).and nodup).imp fun le => lt_of_le_of_ne le.1 le.2
    have mem_sizes : ∀ size, size ∈ sizes ↔ ∃ desc ∈ config.allDescs, desc.numTokens = size := fun size => by
      rw [isSizes, mem_insertionSort, isTable, DescTables.mem_byTokenCount_keys]
    have inSlots : ∀ size ∈ sizes, 0 ≤ size ∧
        size < (List.replicate (sizes.getLast?.getD 0 + 1) ([] : List BatchExecutionDescriptor)).length := by
      intro size isSize
      refine ⟨Nat.zero_le _, ?_⟩
      have notNil := ne_nil_of_mem isSize
      rw [length_replicate, getLast?_eq_getLast_of_ne_nil notNil, Option.getD_some]
      exact Nat.lt_succ_of_le ((sorted.imp le_of_lt).rel_getLast isSize)
    have filled := getD_filledRanges (fun size => (byTokenCount.get? size).getD []) [] sorted inSlots numTokens
    have noSlot : (List.replicate (sizes.getLast?.getD 0 + 1) ([] : List BatchExecutionDescriptor)).getD numTokens [] =
        [] := by
      rw [getD_eq_getElem?_getD, getElem?_replicate]
      split <;> rfl
    rw [if_neg (Nat.not_lt_zero _), noSlot] at filled
    have isCandidates : (candidatesOf byTokenCount).getD numTokens [] =
        ((sizes.find? fun size => decide (numTokens ≤ size)).map fun size =>
          (byTokenCount.get? size).getD []).getD [] := filled
    rw [isCandidates]
    cases found : sizes.find? fun size => decide (numTokens ≤ size) with
    | none =>
      left
      refine ⟨fun desc member => ?_, rfl⟩
      have below := find?_eq_none.mp found desc.numTokens ((mem_sizes _).mpr ⟨desc, member, rfl⟩)
      simpa using below
    | some size =>
      right
      have isSize := mem_of_find?_eq_some found
      have fits : numTokens ≤ size := by simpa using find?_some found
      obtain ⟨desc, member, isKey⟩ := (mem_sizes size).mp isSize
      refine ⟨size, mem_map.mpr ⟨desc, member, isKey⟩, fits, ?_, ?_⟩
      · intro other isOther otherFits
        obtain ⟨-, earlier, later, isSplit, noEarlier⟩ := find?_eq_some_iff_append.mp found
        have isMember : other.numTokens ∈ sizes := (mem_sizes _).mpr ⟨other, isOther, rfl⟩
        rw [isSplit] at isMember sorted
        rcases mem_append.mp isMember with isEarlier | isLater
        · have := noEarlier _ isEarlier
          simp [otherFits] at this
        · rcases mem_cons.mp isLater with isSame | isRest
          · exact isSame.ge
          · exact ((pairwise_cons.mp (pairwise_append.mp sorted).2.1).1 _ isRest).le
      · rw [Option.map_some, Option.getD_some, isTable, DescTables.getD_byTokenCount]

variable {manager : CudaGraphManager} {attnStates : List BatchExecutionDescriptor}

private theorem captureDesc_only {descs : List BatchExecutionDescriptor}
    {state next : CudaGraphManager × List BatchExecutionDescriptor}
    (ran : descs.foldlM captureDesc state = .ok next) :
    next.1.candidates = state.1.candidates ∧ ∀ desc, desc ∈ next.2 ↔ desc ∈ state.2 ∨ desc ∈ descs := by
  induction descs generalizing state with
  | nil =>
    cases ran
    simp
  | cons head rest ih =>
    obtain ⟨middle, ranHead, ranRest⟩ := bind_eq_ok.mp ran
    obtain ⟨candidates, isNext⟩ := ih ranRest
    have step : middle.1.candidates = state.1.candidates ∧ middle.2 = state.2 ++ [head] := by
      unfold captureDesc at ranHead
      split at ranHead
      · cases ranHead
        exact ⟨rfl, rfl⟩
      · obtain ⟨_, _, isMiddle⟩ := bind_eq_ok.mp ranHead
        cases isMiddle
        exact ⟨rfl, rfl⟩
    refine ⟨candidates.trans step.1, fun desc => ?_⟩
    rw [isNext, step.2, mem_append, mem_singleton, mem_cons, or_assoc]

theorem capture_eq_ok (ran : (init config).capture = .ok (manager, attnStates)) :
    manager.graphsCaptured = true ∧ manager.candidates = (init config).candidates ∧
      ∀ desc, desc ∈ attnStates ↔ desc ∈ config.allDescs := by
  obtain ⟨⟨last, states⟩, ranAll, isManager⟩ := bind_eq_ok.mp ran
  cases isManager
  obtain ⟨candidates, isState⟩ := captureDesc_only ranAll
  refine ⟨rfl, candidates, fun desc => ?_⟩
  rw [isState]
  simp only [not_mem_nil, false_or, mem_flatMap, init_tables.2]
  constructor
  · rintro ⟨_, -, isDesc, -⟩
    exact isDesc
  · intro isDesc
    refine ⟨desc.cgMode, ?_, isDesc, rfl⟩
    cases isMode : desc.cgMode with
    | NONE => exact absurd isMode (CudaGraphConfig.allDescs_wellShaped isDesc).isGraph
    | PIECEWISE | FULL => simp

/-- After the capture, a batch gets the first candidate it is compatible with. -/
theorem dispatch_eq (ran : (init config).capture = .ok (manager, attnStates)) {numReqs numTokens : Nat}
    (positive : 0 < numTokens) (uniformTokenCount : Option Nat) :
    manager.dispatch numReqs numTokens uniformTokenCount =
      (((init config).candidates.getD numTokens []).find? fun desc =>
        isCompatible desc numReqs numTokens uniformTokenCount).getD (.eager numTokens numReqs) := by
  obtain ⟨isCaptured, candidates, -⟩ := capture_eq_ok ran
  rw [dispatch, isCaptured, candidates]
  by_cases inRange : numTokens < (init config).candidates.length
  · rw [if_pos ⟨rfl, positive, inRange⟩]
  · rw [if_neg fun holds => inRange holds.2.2, getD_eq_getElem?_getD,
      getElem?_eq_none (Nat.not_lt.mp inRange)]
    rfl

end CudaGraphManager

end DeepSpark
